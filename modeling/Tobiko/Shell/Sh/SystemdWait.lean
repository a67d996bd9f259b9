import Tobiko.Shell.Sh.SystemdUnits

/-!
Contract: what a wait for units that returns tells of the units that were requested.

Owns: the last listing of a unit, what the loop keeps of the listings so far, and when every
requested unit was accepted in its last listing.

Does not own: the listings and the loop.

Each listing is asked for the units that the one before it has not accepted, so that a unit that
one listing leaves out is not asked for again.
-/

namespace Tobiko.Shell.Sh.Systemctl

open Tobiko.Common Tobiko.Common.Time Tobiko.Foundation

/-! ### Listings -/

/-- The name is one of those that were listed. -/
def Round.lists (round : Round) (name : Text) : Bool :=
  round.listed.any fun unit => decide (unit.unit = name)

/-- All that is listed under the name is accepted. -/
def Round.Accepts (matchUnit : SystemdUnit → Bool) (round : Round) (name : Text) : Prop :=
  ∀ unit ∈ round.listed, unit.unit = name → matchUnit unit = true

/-- All the names that were asked for are listed. -/
def Round.Complete (round : Round) : Prop := ∀ name ∈ round.asked, round.lists name = true

/-- The last listing that has the name. -/
def lastListing (rounds : List Round) (name : Text) : Option Round :=
  rounds.reverse.find? fun round => round.lists name

/-- The name was accepted in the last listing that has it. -/
def AcceptedLast (matchUnit : SystemdUnit → Bool) (rounds : List Round) (name : Text) : Prop :=
  ∃ round, lastListing rounds name = some round ∧ round.Accepts matchUnit name

section Listings

variable {matchUnit : SystemdUnit → Bool} {rounds : List Round} {now : Round} {name : Text}

theorem lists_iff : now.lists name = true ↔ ∃ unit ∈ now.listed, unit.unit = name := by
  simp [Round.lists]

theorem lastListing_concat (rounds : List Round) (now : Round) (name : Text) :
    lastListing (rounds ++ [now]) name =
      if now.lists name then some now else lastListing rounds name := by
  rw [lastListing, List.reverse_append, List.reverse_singleton, List.singleton_append,
    List.find?_cons]
  split
  · rename_i listed
    rw [if_pos listed]
  · rename_i unlisted
    rw [unlisted]
    rfl

theorem acceptedLast_listed (listed : now.lists name = true) :
    AcceptedLast matchUnit (rounds ++ [now]) name ↔ now.Accepts matchUnit name := by
  unfold AcceptedLast
  rw [lastListing_concat, if_pos listed]
  constructor
  · rintro ⟨round, same, accepted⟩
    cases same
    exact accepted
  · exact fun accepted => ⟨now, rfl, accepted⟩

theorem acceptedLast_unlisted (unlisted : ¬now.lists name = true) :
    AcceptedLast matchUnit (rounds ++ [now]) name ↔ AcceptedLast matchUnit rounds name := by
  unfold AcceptedLast
  rw [lastListing_concat, if_neg unlisted]

theorem not_acceptedLast_nil : ¬AcceptedLast matchUnit [] name := by
  rintro ⟨round, listed, -⟩
  cases listed

/-- A unit that was accepted has been listed. -/
theorem AcceptedLast.listed (accepted : AcceptedLast matchUnit rounds name) :
    ∃ round ∈ rounds, round.lists name = true := by
  obtain ⟨round, found, -⟩ := accepted
  unfold lastListing at found
  have listed := List.find?_some found
  exact ⟨round, List.mem_reverse.mp (List.mem_of_find?_eq_some found), listed⟩

end Listings

/-! ### The units so far -/

section Units

/-- The units are under their names, and all that were listed are there. -/
structure Holds (allUnits : Dict Text SystemdUnit) (rounds : List Round) : Prop where
  named : ∀ name unit, allUnits.get? name = some unit → unit.unit = name
  all : ∀ round ∈ rounds, ∀ unit ∈ round.listed, unit.unit ∈ allUnits.keys

theorem updateUnits_named {allUnits : Dict Text SystemdUnit} (units : List SystemdUnit)
    (named : ∀ name unit, allUnits.get? name = some unit → unit.unit = name) :
    ∀ name unit, (updateUnits allUnits units).get? name = some unit → unit.unit = name := by
  induction units generalizing allUnits with
  | nil => exact named
  | cons first units inductionHypothesis =>
      apply inductionHypothesis
      intro name unit found
      rw [Dict.get?_set] at found
      split at found
      · rename_i same
        cases found
        exact same.symm
      · exact named name unit found

theorem mem_keys_updateUnits {allUnits : Dict Text SystemdUnit} {units : List SystemdUnit}
    {name : Text} : name ∈ (updateUnits allUnits units).keys ↔
      name ∈ allUnits.keys ∨ ∃ unit ∈ units, unit.unit = name := by
  have pairs : updateUnits allUnits units = (units.map fun unit => (unit.unit, unit)).foldl
      (fun units pair => units.set pair.1 pair.2) allUnits := by
    rw [List.foldl_map]
    rfl
  rw [pairs, Dict.mem_keys_foldl, List.map_map, List.mem_map]
  rfl

theorem Holds.update {allUnits : Dict Text SystemdUnit} {rounds : List Round}
    (holds : Holds allUnits rounds) (now : Round) :
    Holds (updateUnits allUnits now.listed) (rounds ++ [now]) where
  named := updateUnits_named now.listed holds.named
  all := by
    intro round member unit listed
    rw [mem_keys_updateUnits]
    rcases List.mem_append.mp member with before | isNow
    · exact .inl (holds.all round before unit listed)
    · obtain rfl := List.mem_singleton.mp isNow
      exact .inr ⟨unit, listed, rfl⟩

theorem holds_empty : Holds .empty [] where
  named := fun _ _ found => by cases found
  all := fun _ member => (List.not_mem_nil member).elim

/-- A unit that was listed is returned. -/
theorem Holds.returned {allUnits : Dict Text SystemdUnit} {rounds : List Round}
    (holds : Holds allUnits rounds) {round : Round} (member : round ∈ rounds) {name : Text}
    (listed : round.lists name = true) :
    ∃ unit ∈ allUnits.entries.map Prod.snd, unit.unit = name := by
  obtain ⟨unit, inRound, rfl⟩ := lists_iff.mp listed
  have present := Dict.isSome_get?.mpr (holds.all round member unit inRound)
  obtain ⟨found, found_eq⟩ := Option.isSome_iff_exists.mp present
  exact ⟨found, List.mem_map.mpr ⟨_, Dict.mem_entries_iff.mpr found_eq, rfl⟩,
    holds.named _ _ found_eq⟩

end Units

/-! ### The loop -/

section Loop

variable {World Exc : Type} {executor : Executor World Exc} {matchUnit : SystemdUnit → Bool}
  {options : WaitOptions} {requested : List SystemdUnitType}

/-- A listing has no units but those that it was asked for. -/
def Restricted (executor : Executor World Exc) : Prop :=
  ∀ (command : ListUnits) world output listed, command.units ≠ [] →
    (executor.execute command world).1 = .ok output →
    parseUnits executor.lower command output =
      (.ok listed : Except (SystemctlError Exc) (List SystemdUnit)) →
    ∀ unit ∈ listed, unit.unit ∈ command.units

def namesOf (units : List SystemdUnitType) : List Text := units.map getSystemdUnitName

/-- What is known about the units after the listings. A unit that was left out of one that
asked for it is not asked for again, and was not accepted in the last listing that has it. -/
structure Known (matchUnit : SystemdUnit → Bool) (requested : List SystemdUnitType)
    (waiting : Waiting) (rounds : List Round) : Prop where
  holds : Holds waiting.allUnits rounds
  within : ∀ name ∈ namesOf waiting.missingUnits, name ∈ namesOf requested
  missing : ∀ name ∈ namesOf waiting.missingUnits, ¬AcceptedLast matchUnit rounds name
  complete : (∀ round ∈ rounds, round.Complete) → ∀ name ∈ namesOf requested,
    name ∈ namesOf waiting.missingUnits ∨ AcceptedLast matchUnit rounds name
  incomplete : ¬(∀ round ∈ rounds, round.Complete) → ∃ name ∈ namesOf requested,
    name ∉ namesOf waiting.missingUnits ∧ ¬AcceptedLast matchUnit rounds name

theorem known_start : Known matchUnit requested ⟨requested, .empty⟩ [] where
  holds := holds_empty
  within := fun _ member => member
  missing := fun _ _ => not_acceptedLast_nil
  complete := fun _ _ member => .inl member
  incomplete := fun incomplete =>
    absurd (fun _ member => (List.not_mem_nil member).elim) incomplete

/-- The variables after a listing. -/
def Waiting.after (matchUnit : SystemdUnit → Bool) (waiting : Waiting)
    (listed : List SystemdUnit) : Waiting where
  allUnits := updateUnits waiting.allUnits listed
  missingUnits := (listed.filter fun unit => !matchUnit unit).map .unit

theorem mem_missing_after {waiting : Waiting} {listed : List SystemdUnit} {name : Text} :
    name ∈ namesOf (waiting.after matchUnit listed).missingUnits ↔
      ∃ unit ∈ listed, matchUnit unit = false ∧ unit.unit = name := by
  simp [namesOf, Waiting.after, getSystemdUnitName, and_assoc]

/-- A listed unit is missing after the listing unless it was accepted. -/
theorem missing_or_accepts (waiting : Waiting) (now : Round) (name : Text) :
    name ∈ namesOf (waiting.after matchUnit now.listed).missingUnits ∨
      now.Accepts matchUnit name := by
  by_cases accepted : now.Accepts matchUnit name
  · exact .inr accepted
  · left
    simp only [Round.Accepts, not_forall] at accepted
    obtain ⟨unit, listed, same, refused⟩ := accepted
    exact mem_missing_after.mpr ⟨unit, listed, by simpa using refused, same⟩

theorem not_accepts_of_missing {waiting : Waiting} {now : Round} {name : Text}
    (missing : name ∈ namesOf (waiting.after matchUnit now.listed).missingUnits) :
    now.lists name = true ∧ ¬now.Accepts matchUnit name := by
  obtain ⟨unit, listed, refused, same⟩ := mem_missing_after.mp missing
  refine ⟨lists_iff.mpr ⟨unit, listed, same⟩, fun accepted => ?_⟩
  rw [accepted unit listed same] at refused
  cases refused

/-- What a listing keeps of it. -/
theorem Known.after {waiting : Waiting} {rounds : List Round}
    (known : Known matchUnit requested waiting rounds) {now : Round}
    (asked : now.asked = namesOf waiting.missingUnits)
    (restricted : ∀ name, now.lists name = true → name ∈ now.asked) :
    Known matchUnit requested (waiting.after matchUnit now.listed) (rounds ++ [now]) where
  holds := known.holds.update now
  within := by
    intro name missing
    apply known.within
    rw [← asked]
    exact restricted name (not_accepts_of_missing missing).1
  missing := by
    intro name missing accepted
    obtain ⟨listed, refused⟩ := not_accepts_of_missing missing
    exact refused ((acceptedLast_listed listed).mp accepted)
  complete := by
    intro complete name inRequested
    have before : ∀ round ∈ rounds, round.Complete := fun round member =>
      complete round (List.mem_append_left _ member)
    have nowComplete : now.Complete := complete now (List.mem_append_right _ List.mem_cons_self)
    by_cases listed : now.lists name = true
    · rw [acceptedLast_listed listed]
      exact missing_or_accepts waiting now name
    · rw [acceptedLast_unlisted listed]
      right
      apply (known.complete before name inRequested).resolve_left
      intro missing
      rw [← asked] at missing
      exact listed (nowComplete name missing)
  incomplete := by
    intro incomplete
    have stays : ∀ name, ¬now.lists name = true → ¬AcceptedLast matchUnit rounds name →
        name ∉ namesOf (waiting.after matchUnit now.listed).missingUnits ∧
          ¬AcceptedLast matchUnit (rounds ++ [now]) name := by
      intro name unlisted notAccepted
      refine ⟨fun missing => unlisted (not_accepts_of_missing missing).1, ?_⟩
      rw [acceptedLast_unlisted unlisted]
      exact notAccepted
    by_cases before : ∀ round ∈ rounds, round.Complete
    · have nowIncomplete : ¬now.Complete := by
        intro nowComplete
        apply incomplete
        intro round member
        rcases List.mem_append.mp member with earlier | isNow
        · exact before round earlier
        · rw [List.mem_singleton.mp isNow]
          exact nowComplete
      simp only [Round.Complete, not_forall] at nowIncomplete
      obtain ⟨name, inAsked, unlisted⟩ := nowIncomplete
      rw [asked] at inAsked
      exact ⟨name, known.within name inAsked, stays name unlisted (known.missing name inAsked)⟩
    · obtain ⟨name, inRequested, notMissing, notAccepted⟩ := known.incomplete before
      have unlisted : ¬now.lists name = true := by
        intro listed
        apply notMissing
        rw [← asked]
        exact restricted name listed
      exact ⟨name, inRequested, stays name unlisted notAccepted⟩

/-- A listing that returns is added to the rounds, with the units that were asked for. -/
theorem listSystemdUnits_ensures (units : List SystemdUnitType) (state type : Option Text)
    (world : World) (rounds : List Round) :
    Effect.Ensures (fun start => start = (world, rounds))
      (listSystemdUnits executor units state type)
      (fun listed after => after.2 = rounds ++ [⟨namesOf units, listed⟩] ∧
        ∃ output, (executor.execute ⟨namesOf units, true, state, type⟩ world).1 = .ok output ∧
          parseUnits executor.lower ⟨namesOf units, true, state, type⟩ output =
            (.ok listed : Except (SystemctlError Exc) (List SystemdUnit)))
      (fun _ _ => True) := by
  apply Effect.ensures_bind (fun answer after => after.2 = rounds ∧
    (executor.execute ⟨namesOf units, true, state, type⟩ world).1 = answer)
  · apply Effect.ensures_update
    rintro _ rfl
    exact ⟨rfl, rfl⟩
  · intro answer
    apply Effect.ensures_bind _ (Effect.ensures_ofExcept fun _ _ _ _ => trivial)
    intro output
    apply Effect.ensures_bind _ (Effect.ensures_ofExcept fun _ _ _ _ => trivial)
    intro listed
    apply Effect.ensures_bind (fun _ after => after.2 = rounds ++ [⟨namesOf units, listed⟩] ∧
        ∃ output, (executor.execute ⟨namesOf units, true, state, type⟩ world).1 = .ok output ∧
          parseUnits executor.lower ⟨namesOf units, true, state, type⟩ output =
            (.ok listed : Except (SystemctlError Exc) (List SystemdUnit)))
    · apply Effect.ensures_modify
      rintro ⟨later, kept⟩ ⟨parsed, executed, rfl, same⟩
      refine ⟨rfl, output, ?_, parsed⟩
      rw [same]
      cases answer with
      | ok other =>
          cases executed
          rfl
      | error exception => cases executed
    · exact fun _ => Effect.ensures_pure fun _ holds => holds

theorem waitTurn_ensures (restricted : Restricted executor) (attempt : RetryAttempt)
    (waiting : Waiting) :
    Effect.Ensures (fun state : World × List Round =>
        Known matchUnit requested waiting state.2 ∧ waiting.missingUnits ≠ [])
      (waitTurn executor matchUnit options attempt waiting)
      (Retry.Turn.Holds
        (fun waiting state => Known matchUnit requested waiting state.2 ∧
          waiting.missingUnits ≠ [])
        fun waiting state => Known matchUnit requested waiting state.2)
      (fun _ _ => True) := by
  rintro ⟨world, rounds⟩ ⟨known, some_missing⟩
  refine Effect.ensures_bind _ ((listSystemdUnits_ensures waiting.missingUnits options.state
    options.type world rounds).mono (fun _ same => same.symm) (fun _ _ same => same)
      fun _ _ _ => trivial) (fun listed => ?_) (world, rounds) rfl
  rintro ⟨later, laterRounds⟩ ⟨rounds_eq, output, executed, parsed⟩
  dsimp only at rounds_eq
  have after : Known matchUnit requested (waiting.after matchUnit listed) laterRounds := by
    rw [rounds_eq]
    refine known.after (show (Round.mk _ listed).asked = _ from rfl) ?_
    intro name isListed
    obtain ⟨unit, inListed, rfl⟩ := lists_iff.mp isListed
    refine restricted ⟨namesOf waiting.missingUnits, true, options.state, options.type⟩ world
      output listed ?_ executed parsed unit inListed
    exact mt List.map_eq_nil_iff.mp some_missing
  have leaves : Effect.Ensures
      (fun state : World × List Round => state = (later, laterRounds))
      (pure (.leave (waiting.after matchUnit listed)) :
        Effect (SystemctlError Exc) (World × List Round) (Retry.Turn Waiting Waiting))
      (Retry.Turn.Holds
        (fun waiting state => Known matchUnit requested waiting state.2 ∧
          waiting.missingUnits ≠ [])
        fun waiting state => Known matchUnit requested waiting state.2)
      (fun _ _ => True) := by
    apply Effect.ensures_pure
    rintro _ rfl
    exact after
  dsimp only
  split
  · exact leaves (later, laterRounds) rfl
  · rename_i something
    split
    · exact leaves (later, laterRounds) rfl
    · refine (Effect.ensures_pure ?_ : Effect.Ensures
        (fun state : World × List Round => state = (later, laterRounds)) _ _ _)
        (later, laterRounds) rfl
      rintro _ rfl
      exact ⟨after, fun nothing => something (List.isEmpty_iff.mpr nothing)⟩

/-- Every requested unit is returned, and was accepted in the last listing that has it. -/
def Sound (matchUnit : SystemdUnit → Bool) (requested : List SystemdUnitType)
    (returned : List SystemdUnit) (rounds : List Round) : Prop :=
  ∀ name ∈ namesOf requested, (∃ unit ∈ returned, unit.unit = name) ∧
    AcceptedLast matchUnit rounds name

/-- Without missing units the result is sound when every listing was complete. -/
theorem Known.sound_iff {waiting : Waiting} {rounds : List Round}
    (known : Known matchUnit requested waiting rounds) (nothing : waiting.missingUnits = []) :
    Sound matchUnit requested (waiting.allUnits.entries.map Prod.snd) rounds ↔
      ∀ round ∈ rounds, round.Complete := by
  have found : ∀ name, name ∉ namesOf waiting.missingUnits := by
    intro name
    rw [nothing]
    exact List.not_mem_nil
  constructor
  · intro sound
    by_contra incomplete
    obtain ⟨name, inRequested, -, notAccepted⟩ := known.incomplete incomplete
    exact notAccepted (sound name inRequested).2
  · intro complete name inRequested
    have accepted := (known.complete complete name inRequested).resolve_left (found name)
    obtain ⟨round, member, listed⟩ := accepted.listed
    exact ⟨known.holds.returned member listed, accepted⟩

/-- **The wait for units.** When a call that checks the units returns, every requested unit is
returned and was accepted in the last listing that has it, if and only if every listing had all
the units that it was asked for. -/
theorem wait_for_systemd_units_sound_iff (executor : Executor World Exc) (clock : Clock World)
    (matchUnit : SystemdUnit → Bool) (requested : List SystemdUnitType) (options : WaitOptions)
    (turns : Nat) (world : World) (returned : List SystemdUnit) (after : World × List Round)
    (restricted : Restricted executor) (some_requested : requested ≠ [])
    (checks : options.check = true)
    (ran : waitForSystemdUnitsState executor clock matchUnit requested options turns (world, []) =
      some (.ok returned, after)) :
    Sound matchUnit requested returned after.2 ↔ ∀ round ∈ after.2, round.Complete := by
  have ensures : Effect.Ensures (fun state : World × List Round => state.2 = [])
      (waitForSystemdUnitsState executor clock matchUnit requested options turns)
      (fun returned state => Sound matchUnit requested returned state.2 ↔
        ∀ round ∈ state.2, round.Complete) (fun _ _ => True) := by
    apply Effect.ensures_bind
      (fun waiting state => Known matchUnit requested waiting state.2)
      ((Retry.loop_ensures (fun waiting state => Known matchUnit requested waiting state.2 ∧
        waiting.missingUnits ≠ []) (fun waiting => Retry.untimed_paired clock fun rounds =>
          Known matchUnit requested waiting rounds ∧ waiting.missingUnits ≠ [])
        (waitTurn_ensures restricted) (fun _ _ _ _ => trivial) turns _).mono ?_
        (fun _ _ known => known) fun _ _ _ => trivial)
    · intro waited
      rw [checks, Bool.true_and]
      split
      · exact Effect.ensures_raise fun _ _ => trivial
      · rename_i nothing
        apply Effect.ensures_pure
        intro state known
        apply known.sound_iff
        simpa using nothing
    · rintro ⟨start, rounds⟩ rfl
      exact ⟨known_start, some_requested⟩
  exact (ensures (world, []) rfl _ after ran).1 returned rfl

end Loop

/-! ### Two waits for a service -/

section Service

def serviceName : Text := "a.service".toList

def checked : WaitOptions := ⟨none, none, true, none, none⟩

def isActive (unit : SystemdUnit) : Bool := decide (unit.active = "active".toList)

def serviceTable : Text :=
  "UNIT      LOAD   ACTIVE SUB     DESCRIPTION\na.service loaded active running A\n\n1 loaded".toList

/-- The service is active, when it is asked for. -/
def activeService : Executor ℚ Unit where
  execute command now :=
    (.ok (if command.units = [serviceName] then serviceTable else zeroUnitsListed), now)
  lower text := text.map Char.toLower

/-- No unit is loaded. -/
def noService : Executor ℚ Unit where
  execute _ now := (.ok zeroUnitsListed, now)
  lower text := text.map Char.toLower

theorem serviceTable_parsed (command : ListUnits) (listed : List SystemdUnit)
    (parsed : parseUnits activeService.lower command serviceTable =
      (.ok listed : Except (SystemctlError Unit) (List SystemdUnit))) :
    listed.map SystemdUnit.unit = [serviceName] := by
  have units : ((parseUnits activeService.lower command serviceTable :
      Except (SystemctlError Unit) (List SystemdUnit)).map fun units =>
        units.map SystemdUnit.unit).toOption = some [serviceName] := by
    rfl
  rw [parsed] at units
  exact Option.some.inj units

theorem activeService_restricted : Restricted activeService := by
  intro command now output listed some_units executed parsed unit inListed
  by_cases asked : command.units = [serviceName]
  · have table : output = serviceTable := by
      rw [activeService] at executed
      dsimp only at executed
      rw [if_pos asked] at executed
      exact (Except.ok.inj executed).symm
    subst table
    rw [asked, ← serviceTable_parsed command listed parsed]
    exact List.mem_map_of_mem inListed
  · have zero : output = zeroUnitsListed := by
      rw [activeService] at executed
      dsimp only at executed
      rw [if_neg asked] at executed
      exact (Except.ok.inj executed).symm
    subst zero
    cases parsed
    cases inListed

theorem activeService_returns :
    ((waitForSystemdUnitsState activeService Clock.ideal isActive [.name serviceName] checked 1
      (0, [])).map fun ended => ended.1.toOption.map fun units => units.map SystemdUnit.unit) =
        some (some [serviceName]) := by
  decide +kernel

theorem wait_for_systemd_units_sound_iff_active :
    ∃ returned after, Sound isActive [.name serviceName] returned after.2 ↔
      ∀ round ∈ (after : ℚ × List Round).2, round.Complete := by
  obtain ⟨⟨result, after⟩, ran, same⟩ := Option.map_eq_some_iff.mp activeService_returns
  cases result with
  | error error => cases same
  | ok returned =>
      exact ⟨returned, after, wait_for_systemd_units_sound_iff activeService Clock.ideal isActive
        [.name serviceName] checked 1 0 returned after activeService_restricted (by simp) rfl ran⟩

/-- A unit that is never listed does not make the call fail. -/
theorem noService_not_sound :
    Restricted noService ∧
      ∃ returned after, waitForSystemdUnitsState noService Clock.ideal isActive
          [.name serviceName] checked 1 (0, []) = some (.ok returned, after) ∧
        ¬Sound isActive [.name serviceName] returned after.2 := by
  constructor
  · intro command now output listed some_units executed parsed unit inListed
    cases executed
    cases parsed
    cases inListed
  · refine ⟨[], (0, [⟨[serviceName], []⟩]), rfl, fun sound => ?_⟩
    obtain ⟨⟨unit, returned, -⟩, -⟩ := sound serviceName List.mem_cons_self
    cases returned

end Service

end Tobiko.Shell.Sh.Systemctl
