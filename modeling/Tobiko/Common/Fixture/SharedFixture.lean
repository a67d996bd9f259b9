import Mathlib.Data.List.Induction

/-!
Contract: the set up and the clean up of one `SharedFixture` of `tobiko/common/_fixture.py`.

Owns: the two flags and the registered cleanups of a fixture, what each call of
`setUp` and `cleanUp` executes and raises, the runs of such calls, the balance
between the executions of `setup_fixture` and `cleanup_fixture`, and what
`cleanUp` leaves behind when it raises.

`fixtures.Fixture` is as its documentation says: `setUp` clears the cleanups,
runs `_setUp` and cleans up after an error; `cleanUp` runs the cleanups from the
last one to the first one, forgets them, and raises their errors when
`raise_first` is true. Whether each user function raises is an input.
-/

namespace Tobiko.Common.Fixture

/-- What is executed on behalf of a fixture. -/
inductive Event where
  | setupFixture
  | cleanupFixture
  | cleanup
deriving DecidableEq, Repr

/-- A registered cleanup: `cleanup_fixture`, or another function, which raises or not. -/
inductive Cleanup where
  | cleanupFixture
  | other (raises : Bool)
deriving DecidableEq, Repr

/-- Who raised the errors that a call reports. -/
abbrev Errors := List Event

/-- `history` lists what has been executed, the last one first. -/
structure SharedFixture where
  setupExecuted : Bool
  cleanupExecuted : Bool
  cleanups : List Cleanup
  history : List Event
deriving DecidableEq, Repr

/-- What the user's functions do in a call, and the environment it is made in. -/
structure Behaviour where
  setupRaises : Bool
  cleanupRaises : Bool
  registered : List Bool
  preventCreate : Bool
deriving DecidableEq, Repr

/-- Runs the cleanups in the given order and collects their errors. -/
def callMany (cleanupRaises : Bool) : List Cleanup → List Event → Errors × List Event
  | [], history => ([], history)
  | .cleanupFixture :: rest, history =>
      let (errors, history) := callMany cleanupRaises rest (.cleanupFixture :: history)
      (if cleanupRaises then .cleanupFixture :: errors else errors, history)
  | .other raises :: rest, history =>
      let (errors, history) := callMany cleanupRaises rest (.cleanup :: history)
      (if raises then .cleanup :: errors else errors, history)

namespace SharedFixture

/-- `SharedFixture()` -/
def init : SharedFixture := ⟨false, false, [], []⟩

variable (fixture : SharedFixture)

def addCleanup (cleanup : Cleanup) : SharedFixture :=
  { fixture with cleanups := fixture.cleanups ++ [cleanup] }

/-- `fixtures.Fixture.cleanUp`, which returns the errors it does not raise. -/
def superCleanUp (raiseFirst cleanupRaises : Bool) : Except Errors Errors × SharedFixture :=
  let (errors, history) := callMany cleanupRaises fixture.cleanups.reverse fixture.history
  let fixture := { fixture with cleanups := [], history := history }
  (if raiseFirst && !errors.isEmpty then .error errors else .ok errors, fixture)

/-- The cleanups that a call of `cleanUp` runs. -/
def withCleanupFixture (preventCreate : Bool) : SharedFixture :=
  if preventCreate then fixture
  else if fixture.cleanupExecuted then fixture
  else fixture.addCleanup .cleanupFixture

def cleanUp (raiseFirst : Bool) (behaviour : Behaviour) : Except Errors Errors × SharedFixture :=
  let fixture := fixture.withCleanupFixture behaviour.preventCreate
  match fixture.superCleanUp raiseFirst behaviour.cleanupRaises with
  | (.error errors, fixture) => (.error errors, fixture)
  | (.ok errors, fixture) =>
      (.ok errors, { fixture with setupExecuted := false, cleanupExecuted := true })

/-- `_clear_cleanups` and `_setUp`, which runs `setup_fixture`. -/
def superSetUp (behaviour : Behaviour) : SharedFixture :=
  { fixture with
    cleanups := behaviour.registered.map .other
    history := .setupFixture :: fixture.history }

def setUp (behaviour : Behaviour) : Except Errors Unit × SharedFixture :=
  if fixture.setupExecuted then (.ok (), fixture)
  else
    let fixture := fixture.superSetUp behaviour
    if behaviour.setupRaises then
      match fixture.cleanUp false behaviour with
      | (.ok errors, fixture) => (.error (.setupFixture :: errors), fixture)
      | (.error errors, fixture) => (.error errors, fixture)
    else (.ok (), { fixture with cleanupExecuted := false, setupExecuted := true })

/-- `reset`: `cleanUp`, and `setUp` unless it raised. -/
def reset (behaviour setUpBehaviour : Behaviour) : Except Errors Unit × SharedFixture :=
  match fixture.cleanUp true behaviour with
  | (.error errors, fixture) => (.error errors, fixture)
  | (.ok _, fixture) => fixture.setUp setUpBehaviour

end SharedFixture

/-- A call on a fixture. `cleanup_fixture` and the end of a `with` block call
`cleanUp` with `raise_first`; a failing `setUp` calls it without. -/
inductive Call where
  | setUp (behaviour : Behaviour)
  | cleanUp (raiseFirst : Bool) (behaviour : Behaviour)
  | addCleanup (raises : Bool)
deriving DecidableEq, Repr

def Call.run (fixture : SharedFixture) : Call → SharedFixture
  | .setUp behaviour => (fixture.setUp behaviour).2
  | .cleanUp raiseFirst behaviour => (fixture.cleanUp raiseFirst behaviour).2
  | .addCleanup raises => fixture.addCleanup (.other raises)

/-- The fixture after a sequence of calls, whatever each of them raised. -/
def run (calls : List Call) : SharedFixture := calls.foldl Call.run SharedFixture.init

/-- A reset is a clean up that is followed by a set up unless it raised. -/
theorem reset_eq (fixture : SharedFixture) (behaviour setUpBehaviour : Behaviour) :
    (fixture.reset behaviour setUpBehaviour).2 = Call.run fixture (.cleanUp true behaviour) ∨
      (fixture.reset behaviour setUpBehaviour).2 =
        Call.run (Call.run fixture (.cleanUp true behaviour)) (.setUp setUpBehaviour) := by
  unfold SharedFixture.reset
  split
  · rename_i errors cleaned raised
    exact .inl (by simp [Call.run, raised])
  · rename_i errors cleaned returned
    exact .inr (by simp [Call.run, returned])

/-! ### What a call does to the flags and to the history -/

section Calls

variable {fixture : SharedFixture} {behaviour : Behaviour} {raiseFirst : Bool}

/-- The cleanups are executed from the front of the list, with nothing else between. -/
theorem callMany_history (cleanupRaises : Bool) (cleanups : List Cleanup) (history : List Event) :
    ∃ executed, (callMany cleanupRaises cleanups history).2 = executed ++ history ∧
      Event.setupFixture ∉ executed ∧
      (Event.cleanupFixture ∈ executed ↔ Cleanup.cleanupFixture ∈ cleanups) := by
  induction cleanups generalizing history with
  | nil => exact ⟨[], by simp [callMany]⟩
  | cons cleanup rest inductionHypothesis =>
      cases cleanup with
      | cleanupFixture =>
          obtain ⟨executed, same, noSetup, -⟩ := inductionHypothesis (.cleanupFixture :: history)
          refine ⟨executed ++ [.cleanupFixture], ?_, ?_, ?_⟩
          · simp [callMany, same]
          · simp [noSetup]
          · simp
      | other raises =>
          obtain ⟨executed, same, noSetup, cleaned⟩ := inductionHypothesis (.cleanup :: history)
          refine ⟨executed ++ [.cleanup], ?_, ?_, ?_⟩
          · simp [callMany, same]
          · simp [noSetup]
          · simp [cleaned]

/-- Whether the cleanup raises when it is run. -/
def Cleanup.raises (cleanupRaises : Bool) : Cleanup → Bool
  | .cleanupFixture => cleanupRaises
  | .other raises => raises

theorem callMany_errors (cleanupRaises : Bool) (cleanups : List Cleanup) (history : List Event) :
    (callMany cleanupRaises cleanups history).1.isEmpty = true ↔
      ∀ cleanup ∈ cleanups, cleanup.raises cleanupRaises = false := by
  induction cleanups generalizing history with
  | nil => simp [callMany]
  | cons cleanup rest inductionHypothesis =>
      cases cleanup with
      | cleanupFixture =>
          cases cleanupRaises with
          | false => simpa [callMany, Cleanup.raises] using inductionHypothesis _
          | true => simp [callMany, Cleanup.raises]
      | other raises =>
          cases raises with
          | false => simpa [callMany, Cleanup.raises] using inductionHypothesis _
          | true => simp [callMany, Cleanup.raises]

theorem withCleanupFixture_flags (fixture : SharedFixture) (preventCreate : Bool) :
    (fixture.withCleanupFixture preventCreate).setupExecuted = fixture.setupExecuted ∧
      (fixture.withCleanupFixture preventCreate).cleanupExecuted = fixture.cleanupExecuted ∧
      (fixture.withCleanupFixture preventCreate).history = fixture.history := by
  unfold SharedFixture.withCleanupFixture
  split
  · exact ⟨rfl, rfl, rfl⟩
  · split
    · exact ⟨rfl, rfl, rfl⟩
    · exact ⟨rfl, rfl, rfl⟩

theorem mem_withCleanupFixture {cleanup : Cleanup} {preventCreate : Bool} :
    cleanup ∈ (fixture.withCleanupFixture preventCreate).cleanups ↔
      cleanup ∈ fixture.cleanups ∨ (cleanup = .cleanupFixture ∧ preventCreate = false ∧
        fixture.cleanupExecuted = false) := by
  unfold SharedFixture.withCleanupFixture
  split
  · rename_i prevented
    simp [prevented]
  · split
    · rename_i executed
      simp [executed]
    · rename_i created pending
      simp [SharedFixture.addCleanup, created, pending]

/-- Nothing that the call runs raises, or it does not raise what is raised. -/
def SharedFixture.CleanUpSucceeds (fixture : SharedFixture) (raiseFirst : Bool)
    (behaviour : Behaviour) : Prop :=
  raiseFirst = false ∨ ((∀ cleanup ∈ fixture.cleanups,
      cleanup.raises behaviour.cleanupRaises = false) ∧
    (behaviour.preventCreate = false → fixture.cleanupExecuted = false →
      behaviour.cleanupRaises = false))

/-- The errors of the cleanups that the call runs, and the history after them. -/
def SharedFixture.cleaned (fixture : SharedFixture) (behaviour : Behaviour) : Errors × List Event :=
  let ready := fixture.withCleanupFixture behaviour.preventCreate
  callMany behaviour.cleanupRaises ready.cleanups.reverse ready.history

/-- The flags are set unless the call raises; the cleanups are forgotten always. -/
theorem cleanUp_eq (fixture : SharedFixture) (raiseFirst : Bool) (behaviour : Behaviour) :
    fixture.cleanUp raiseFirst behaviour =
      if raiseFirst && !(fixture.cleaned behaviour).1.isEmpty then
        (.error (fixture.cleaned behaviour).1, ⟨fixture.setupExecuted, fixture.cleanupExecuted, [],
          (fixture.cleaned behaviour).2⟩)
      else
        (.ok (fixture.cleaned behaviour).1,
          ⟨false, true, [], (fixture.cleaned behaviour).2⟩) := by
  obtain ⟨setupFlag, cleanupFlag, -⟩ :=
    withCleanupFixture_flags fixture behaviour.preventCreate
  unfold SharedFixture.cleanUp SharedFixture.superCleanUp
  by_cases raises : (raiseFirst && !(fixture.cleaned behaviour).1.isEmpty) = true
  · rw [if_pos raises]
    unfold SharedFixture.cleaned at raises ⊢
    simp only [raises, if_true, setupFlag, cleanupFlag]
  · rw [if_neg raises]
    unfold SharedFixture.cleaned at raises ⊢
    simp only [raises]
    rfl

theorem cleaned_history (fixture : SharedFixture) (behaviour : Behaviour) :
    ∃ executed, (fixture.cleaned behaviour).2 = executed ++ fixture.history ∧
      Event.setupFixture ∉ executed ∧
      (Event.cleanupFixture ∈ executed ↔ Cleanup.cleanupFixture ∈ fixture.cleanups ∨
        (behaviour.preventCreate = false ∧ fixture.cleanupExecuted = false)) := by
  obtain ⟨executed, same, noSetup, cleaned⟩ := callMany_history behaviour.cleanupRaises
    (fixture.withCleanupFixture behaviour.preventCreate).cleanups.reverse
    (fixture.withCleanupFixture behaviour.preventCreate).history
  obtain ⟨-, -, sameHistory⟩ := withCleanupFixture_flags fixture behaviour.preventCreate
  refine ⟨executed, ?_, noSetup, ?_⟩
  · rw [SharedFixture.cleaned, same, sameHistory]
  · rw [cleaned, List.mem_reverse, mem_withCleanupFixture]
    simp

theorem cleaned_errors (fixture : SharedFixture) (raiseFirst : Bool) (behaviour : Behaviour) :
    (raiseFirst && !(fixture.cleaned behaviour).1.isEmpty) = false ↔
      fixture.CleanUpSucceeds raiseFirst behaviour := by
  have quiet : (fixture.cleaned behaviour).1.isEmpty = true ↔
      (∀ cleanup ∈ fixture.cleanups, cleanup.raises behaviour.cleanupRaises = false) ∧
        (behaviour.preventCreate = false → fixture.cleanupExecuted = false →
          behaviour.cleanupRaises = false) := by
    rw [SharedFixture.cleaned, callMany_errors]
    constructor
    · intro none_
      refine ⟨fun cleanup member => none_ cleanup ?_, fun created pending => ?_⟩
      · exact List.mem_reverse.mpr (mem_withCleanupFixture.mpr (.inl member))
      · exact none_ .cleanupFixture
          (List.mem_reverse.mpr (mem_withCleanupFixture.mpr (.inr ⟨rfl, created, pending⟩)))
    · rintro ⟨registered, own⟩ cleanup member
      rcases mem_withCleanupFixture.mp (List.mem_reverse.mp member) with
        earlier | ⟨rfl, created, pending⟩
      · exact registered cleanup earlier
      · exact own created pending
  cases raiseFirst with
  | false => simp [SharedFixture.CleanUpSucceeds]
  | true => simp [SharedFixture.CleanUpSucceeds, quiet]

/-! ### What `cleanUp` leaves behind -/

/-- The event is executed between the two states. -/
def Executes (before after : SharedFixture) (event : Event) : Prop :=
  ∃ executed, after.history = executed ++ before.history ∧ event ∈ executed

/-- The next `setUp` executes `setup_fixture`, and a `cleanUp` before it does not
execute `cleanup_fixture`. -/
def NotSetUp (fixture : SharedFixture) : Prop :=
  (∀ behaviour, Executes fixture (fixture.setUp behaviour).2 .setupFixture) ∧
    ∀ raiseFirst behaviour, ¬ Executes fixture (fixture.cleanUp raiseFirst behaviour).2
      .cleanupFixture

theorem cleanUp_history (fixture : SharedFixture) (raiseFirst : Bool) (behaviour : Behaviour) :
    (fixture.cleanUp raiseFirst behaviour).2.history = (fixture.cleaned behaviour).2 := by
  rw [cleanUp_eq]
  split <;> rfl

theorem executes_cleanUp {raiseFirst : Bool} :
    Executes fixture (fixture.cleanUp raiseFirst behaviour).2 .cleanupFixture ↔
      Cleanup.cleanupFixture ∈ fixture.cleanups ∨
        (behaviour.preventCreate = false ∧ fixture.cleanupExecuted = false) := by
  obtain ⟨executed, same, -, cleaned⟩ := cleaned_history fixture behaviour
  rw [← cleaned]
  unfold Executes
  rw [cleanUp_history, same]
  constructor
  · rintro ⟨other, equal, member⟩
    rwa [List.append_cancel_right equal]
  · exact fun member => ⟨executed, rfl, member⟩

theorem setUp_of_raises (pending : fixture.setupExecuted = false)
    (raises : behaviour.setupRaises = true) :
    (fixture.setUp behaviour).2 = ((fixture.superSetUp behaviour).cleanUp false behaviour).2 := by
  simp only [SharedFixture.setUp, pending, raises, if_true, Bool.false_eq_true, if_false]
  split
  · rename_i ended
    rw [ended]
  · rename_i ended
    rw [ended]

/-- A `setUp` that is not skipped executes `setup_fixture` first, and once. -/
theorem setUp_history (pending : fixture.setupExecuted = false) (behaviour : Behaviour) :
    ∃ executed, (fixture.setUp behaviour).2.history =
        executed ++ .setupFixture :: fixture.history ∧ Event.setupFixture ∉ executed := by
  cases raises : behaviour.setupRaises with
  | true =>
      obtain ⟨executed, same, noSetup, -⟩ :=
        cleaned_history (fixture.superSetUp behaviour) behaviour
      refine ⟨executed, ?_, noSetup⟩
      rw [setUp_of_raises pending raises, cleanUp_history, same]
      rfl
  | false => exact ⟨[], by simp [SharedFixture.setUp, SharedFixture.superSetUp, pending, raises]⟩

theorem executes_setUp :
    Executes fixture (fixture.setUp behaviour).2 .setupFixture ↔ fixture.setupExecuted = false := by
  cases pending : fixture.setupExecuted with
  | true => simp [SharedFixture.setUp, Executes, pending]
  | false =>
      obtain ⟨executed, same, -⟩ := setUp_history pending behaviour
      exact iff_of_true ⟨executed ++ [.setupFixture], by simp [same], by simp⟩ rfl

theorem notSetUp_iff : NotSetUp fixture ↔ fixture.setupExecuted = false ∧
    fixture.cleanupExecuted = true ∧ Cleanup.cleanupFixture ∉ fixture.cleanups := by
  unfold NotSetUp
  constructor
  · rintro ⟨setUp, cleanUp⟩
    have flag := executes_setUp.mp (setUp ⟨false, false, [], false⟩)
    have quiet := cleanUp true ⟨false, false, [], false⟩
    rw [executes_cleanUp, not_or] at quiet
    exact ⟨flag, by simpa using quiet.2, quiet.1⟩
  · rintro ⟨setupFlag, cleanupFlag, none_⟩
    refine ⟨fun behaviour => executes_setUp.mpr setupFlag, fun raiseFirst behaviour => ?_⟩
    rw [executes_cleanUp]
    simp [none_, cleanupFlag]

/-- **Reset by `cleanUp`.** After a call the fixture is not set up exactly when
the call does not raise, or the fixture was not set up before. -/
theorem cleanUp_resets_iff (fixture : SharedFixture) (raiseFirst : Bool) (behaviour : Behaviour) :
    NotSetUp (fixture.cleanUp raiseFirst behaviour).2 ↔
      fixture.CleanUpSucceeds raiseFirst behaviour ∨
        (fixture.setupExecuted = false ∧ fixture.cleanupExecuted = true) := by
  rw [notSetUp_iff, cleanUp_eq, ← cleaned_errors]
  cases raised : (raiseFirst && !(fixture.cleaned behaviour).1.isEmpty) with
  | false => simp
  | true => simp

/-- `cleanup_fixture` raises, and the fixture is still set up. -/
theorem failed_cleanUp_keeps_fixture :
    ¬ ∀ (calls : List Call) raiseFirst behaviour,
      NotSetUp ((run calls).cleanUp raiseFirst behaviour).2 := by
  intro resets
  have reset := resets [.setUp ⟨false, false, [], false⟩] true ⟨false, true, [], false⟩
  rw [notSetUp_iff] at reset
  exact absurd reset (by decide)

end Calls

/-! ### Balance of set up and clean up -/

/-- The last `setup_fixture` has not been followed by a `cleanup_fixture`. -/
def Owes : List Event → Prop
  | [] => False
  | .setupFixture :: _ => True
  | .cleanupFixture :: _ => False
  | .cleanup :: earlier => Owes earlier

/-- Each `setup_fixture` was executed when no `cleanup_fixture` was owed. -/
def Balanced : List Event → Prop
  | [] => True
  | .setupFixture :: earlier => ¬ Owes earlier ∧ Balanced earlier
  | _ :: earlier => Balanced earlier

theorem owes_append {executed history : List Event} (noSetup : Event.setupFixture ∉ executed) :
    Owes (executed ++ history) ↔ Event.cleanupFixture ∉ executed ∧ Owes history := by
  induction executed with
  | nil => simp
  | cons event rest inductionHypothesis =>
      simp only [List.mem_cons, not_or] at noSetup
      cases event with
      | setupFixture => exact absurd rfl noSetup.1
      | cleanupFixture => simp [Owes]
      | cleanup => simp [Owes, inductionHypothesis noSetup.2]

theorem balanced_append {executed history : List Event} (noSetup : Event.setupFixture ∉ executed) :
    Balanced (executed ++ history) ↔ Balanced history := by
  induction executed with
  | nil => simp
  | cons event rest inductionHypothesis =>
      simp only [List.mem_cons, not_or] at noSetup
      cases event with
      | setupFixture => exact absurd rfl noSetup.1
      | cleanupFixture => exact inductionHypothesis noSetup.2
      | cleanup => exact inductionHypothesis noSetup.2

theorem owes_of_setup {between earlier : List Event} (none_ : Event.cleanupFixture ∉ between) :
    Owes (between ++ .setupFixture :: earlier) := by
  induction between with
  | nil => trivial
  | cons event rest inductionHypothesis =>
      simp only [List.mem_cons, not_or] at none_
      cases event with
      | setupFixture => trivial
      | cleanupFixture => exact absurd rfl none_.1
      | cleanup => exact inductionHypothesis none_.2

/-- Between any two executions of `setup_fixture` there is one of `cleanup_fixture`. -/
theorem Balanced.between {later between earlier : List Event}
    (balanced : Balanced (later ++ .setupFixture :: between ++ .setupFixture :: earlier)) :
    Event.cleanupFixture ∈ between := by
  induction later with
  | nil =>
      by_contra none_
      exact balanced.1 (owes_of_setup none_)
  | cons event rest inductionHypothesis =>
      cases event with
      | setupFixture => exact inductionHypothesis balanced.2
      | cleanupFixture => exact inductionHypothesis balanced
      | cleanup => exact inductionHypothesis balanced

/-- The environment variable `TOBIKO_PREVENT_CREATE` is not set in the call. -/
def Call.Unprevented : Call → Prop
  | .setUp behaviour => behaviour.preventCreate = false
  | .cleanUp _ behaviour => behaviour.preventCreate = false
  | .addCleanup _ => True

/-- A `setUp` whose `setup_fixture` is executed and raises is not made on a
fixture that is cleaned up already. -/
def Call.CanCleanUp (fixture : SharedFixture) : Call → Prop
  | .setUp behaviour => behaviour.setupRaises = true → fixture.setupExecuted = false →
      fixture.cleanupExecuted = false
  | _ => True

/-- What every fixture satisfies whose calls could clean up. -/
structure Sound (fixture : SharedFixture) : Prop where
  balanced : Balanced fixture.history
  owes : Owes fixture.history → fixture.setupExecuted = true
  flags : fixture.setupExecuted = true → fixture.cleanupExecuted = false

section Balance

variable {fixture : SharedFixture} {behaviour : Behaviour}

/-- A clean up of a fixture that may owe something executes `cleanup_fixture`. -/
theorem Sound.cleanUp (balanced : Balanced fixture.history)
    (owes : Owes fixture.history → fixture.cleanupExecuted = false)
    (flags : fixture.setupExecuted = true → fixture.cleanupExecuted = false)
    (created : behaviour.preventCreate = false) (raiseFirst : Bool) :
    Sound (fixture.cleanUp raiseFirst behaviour).2 := by
  obtain ⟨executed, same, noSetup, cleaned⟩ := cleaned_history fixture behaviour
  have settled : ¬ Owes (fixture.cleaned behaviour).2 := by
    rw [same, owes_append noSetup, cleaned]
    rintro ⟨notCleaned, owed⟩
    exact notCleaned (.inr ⟨created, owes owed⟩)
  have stillBalanced : Balanced (fixture.cleaned behaviour).2 := by
    rw [same, balanced_append noSetup]
    exact balanced
  rw [cleanUp_eq]
  split
  · exact ⟨stillBalanced, fun owed => absurd owed settled, flags⟩
  · exact ⟨stillBalanced, fun owed => absurd owed settled, fun impossible => by cases impossible⟩

theorem Sound.setUp (sound : Sound fixture) (created : behaviour.preventCreate = false)
    (canCleanUp : Call.CanCleanUp fixture (.setUp behaviour)) :
    Sound (fixture.setUp behaviour).2 := by
  cases pending : fixture.setupExecuted with
  | true =>
      have same : (fixture.setUp behaviour).2 = fixture := by simp [SharedFixture.setUp, pending]
      rw [same]
      exact sound
  | false =>
      have settled : ¬ Owes fixture.history := fun owed => by
        rw [sound.owes owed] at pending
        contradiction
      cases raises : behaviour.setupRaises with
      | true =>
          rw [setUp_of_raises pending raises]
          have cleanupFlag := canCleanUp raises pending
          have balanced : Balanced (fixture.superSetUp behaviour).history :=
            ⟨settled, sound.balanced⟩
          exact Sound.cleanUp balanced (fun _ => cleanupFlag) (fun _ => cleanupFlag) created false
      | false =>
          have same : (fixture.setUp behaviour).2 = { fixture.superSetUp behaviour with
              cleanupExecuted := false, setupExecuted := true } := by
            simp [SharedFixture.setUp, pending, raises]
          rw [same]
          exact ⟨⟨settled, sound.balanced⟩, fun _ => rfl, fun _ => rfl⟩

theorem Sound.call {call : Call} (sound : Sound fixture) (created : call.Unprevented)
    (canCleanUp : call.CanCleanUp fixture) : Sound (Call.run fixture call) := by
  cases call with
  | setUp behaviour => exact sound.setUp created canCleanUp
  | cleanUp raiseFirst behaviour =>
      exact Sound.cleanUp sound.balanced (fun owed => sound.flags (sound.owes owed)) sound.flags
        created raiseFirst
  | addCleanup raises => exact ⟨sound.balanced, sound.owes, sound.flags⟩

theorem run_concat (calls : List Call) (call : Call) :
    run (calls ++ [call]) = Call.run (run calls) call := by
  simp [run]

/-- Every call of the sequence can clean up what it sets up. -/
def Cleanable (calls : List Call) : Prop :=
  ∀ earlier call later, calls = earlier ++ call :: later →
    call.Unprevented ∧ call.CanCleanUp (run earlier)

theorem sound_run {calls : List Call} (cleanable : Cleanable calls) : Sound (run calls) := by
  induction calls using List.reverseRecOn with
  | nil => exact ⟨trivial, fun impossible => impossible.elim, fun impossible => by cases impossible⟩
  | append_singleton calls call inductionHypothesis =>
      have sound := inductionHypothesis fun earlier other later same =>
        cleanable earlier other (later ++ [call]) (by simp [same])
      obtain ⟨created, canCleanUp⟩ := cleanable calls call [] rfl
      rw [run_concat]
      exact sound.call created canCleanUp

/-- A `setUp` that fails on a fixture that is cleaned up already executes no
`cleanup_fixture`, and it leaves the fixture so that the next `setUp` is executed. -/
theorem failed_setUp_unbalanced (pending : fixture.setupExecuted = false)
    (cleanedUp : fixture.cleanupExecuted = true) (raises : behaviour.setupRaises = true)
    (next : Behaviour) :
    ¬ Balanced (Call.run (Call.run fixture (.setUp behaviour)) (.setUp next)).history := by
  have failed : Call.run fixture (.setUp behaviour) =
      ((fixture.superSetUp behaviour).cleanUp false behaviour).2 :=
    setUp_of_raises pending raises
  obtain ⟨executed, same, noSetup, cleaned⟩ :=
    cleaned_history (fixture.superSetUp behaviour) behaviour
  have notCleaned : Event.cleanupFixture ∉ executed := by
    rw [cleaned]
    simp [SharedFixture.superSetUp, cleanedUp]
  have history : (Call.run fixture (.setUp behaviour)).history =
      executed ++ .setupFixture :: fixture.history := by
    rw [failed, cleanUp_history, same]
    rfl
  have again : (Call.run fixture (.setUp behaviour)).setupExecuted = false := by
    rw [failed, cleanUp_eq]
    rfl
  obtain ⟨more, nextHistory, -⟩ := setUp_history again next
  intro balanced
  change Balanced (Call.run (Call.run fixture (.setUp behaviour)) (.setUp next)).history at balanced
  have between : Event.cleanupFixture ∈ executed := by
    apply Balanced.between
    rw [Call.run, nextHistory, history] at balanced
    simpa using balanced
  exact notCleaned between

/-- **Balance of set up and clean up.** When no `setUp` fails on a fixture that is
cleaned up already, there is a `cleanup_fixture` between any two executions of
`setup_fixture`; after one that does, a second `setUp` finds it missing. -/
theorem setup_cleanup_balanced {calls : List Call} (cleanable : Cleanable calls) :
    (∀ later between earlier,
      (run calls).history = later ++ .setupFixture :: between ++ .setupFixture :: earlier →
        Event.cleanupFixture ∈ between) ∧
    ∀ behaviour next, ¬ Call.CanCleanUp (run calls) (.setUp behaviour) →
      ¬ Balanced (run (calls ++ [.setUp behaviour, .setUp next])).history := by
  constructor
  · intro later between earlier same
    have balanced := (sound_run cleanable).balanced
    rw [same] at balanced
    exact balanced.between
  · intro behaviour next fails
    simp only [Call.CanCleanUp, not_forall] at fails
    obtain ⟨raises, pending, cleanedUp⟩ := fails
    have two : run (calls ++ [.setUp behaviour, .setUp next]) =
        Call.run (Call.run (run calls) (.setUp behaviour)) (.setUp next) := by simp [run]
    rw [two]
    exact failed_setUp_unbalanced pending (by simpa using cleanedUp) raises next

/-- The first `setUp` fails and cleans up, and the second one succeeds. -/
theorem setup_cleanup_balanced_once :
    (run [.setUp ⟨true, false, [], false⟩, .setUp ⟨false, false, [], false⟩]).history =
      [.setupFixture, .cleanupFixture, .setupFixture] ∧
    Event.cleanupFixture ∈ [Event.cleanupFixture] := by
  have cleanable : Cleanable
      [.setUp ⟨true, false, [], false⟩, .setUp ⟨false, false, [], false⟩] := by
    intro earlier call later same
    match earlier, same with
    | [], same =>
        cases same
        exact ⟨rfl, fun _ _ => rfl⟩
    | [first], same =>
        cases same
        exact ⟨rfl, fun impossible => by cases impossible⟩
    | _ :: _ :: _, same => simp at same
  exact ⟨by decide, (setup_cleanup_balanced cleanable).1 [] _ [] (by decide)⟩

/-- Two calls of `setUp` fail, the second without a clean up, and the third one succeeds. -/
theorem failed_setUps_skip_cleanup :
    ¬ ∀ calls : List Call, (∀ call ∈ calls, call.Unprevented) → ∀ later between earlier,
      (run calls).history = later ++ .setupFixture :: between ++ .setupFixture :: earlier →
        Event.cleanupFixture ∈ between := by
  intro balance
  have between := balance
    [.setUp ⟨true, false, [], false⟩, .setUp ⟨true, false, [], false⟩,
      .setUp ⟨false, false, [], false⟩]
    (by simp [Call.Unprevented]) [] [] [.cleanupFixture, .setupFixture] (by decide)
  cases between

end Balance

end Tobiko.Common.Fixture
