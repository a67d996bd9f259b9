import Tobiko.Openstack.Quotas.Limits

/-!
Contract: what the calls of `ensure_nova_quota_limits` and `ensure_neutron_quota_limits` ask for.

Owns: what one turn of the loop does, the rounds of a run against any service, and the runs
against a service that applies each update.

Does not own: the loop, and which limits are right for the figures of a quota set.
-/

namespace Tobiko.Openstack.Quotas

open Tobiko.Common Tobiko.Common.Time Tobiko.Foundation

section Turn

variable {World Exc : Type} {client : QuotaClient World Exc} {increase : GetLimitsIncrease}
  {required : RequiredQuotas} {level : Level}

/-- The world after the quota set has been read. -/
def QuotaClient.afterGet (client : QuotaClient World Exc) (level : Level) (world : World) : World :=
  (client.get level world).2

/-- What is read in this world, and the limits that are asked for. -/
structure Reads (client : QuotaClient World Exc) (increase : GetLimitsIncrease)
    (required : RequiredQuotas) (level : Level) (extraIncrease : Int) (world : World)
    (quotaSet : QuotaSet) (limits : Limits) : Prop where
  got : (client.get level world).1 = .ok quotaSet
  increased : increase quotaSet extraIncrease required = .ok limits

theorem getLimitsIncrease_cases (extraIncrease : Int) (world : World) (rounds : List Round) :
    (∃ quotaSet limits, Reads client increase required level extraIncrease world quotaSet limits ∧
      getLimitsIncrease client increase required level extraIncrease (world, rounds) =
        some (.ok limits, client.afterGet level world,
          rounds ++ [⟨level, quotaSet, limits.expected⟩])) ∨
    ((∀ quotaSet limits,
        ¬Reads client increase required level extraIncrease world quotaSet limits) ∧
      ∃ error, (∀ project actual expected, error ≠ .ensureQuotaLimits project actual expected) ∧
        getLimitsIncrease client increase required level extraIncrease (world, rounds) =
          some (.error error, client.afterGet level world, rounds)) := by
  simp only [getLimitsIncrease, request, bind, Effect.bind, Effect.update, Effect.modify]
  cases got : (client.get level world).1 with
  | error exception =>
      right
      refine ⟨fun quotaSet limits reads => ?_, .request exception, by simp, rfl⟩
      have answered := reads.got
      rw [got] at answered
      cases answered
  | ok quotaSet =>
      cases increased : increase quotaSet extraIncrease required with
      | error name =>
          right
          refine ⟨fun other limits reads => ?_, .missingQuota name, by simp, ?_⟩
          · have answered := reads.got
            rw [got] at answered
            cases answered
            have passed := reads.increased
            rw [increased] at passed
            cases passed
          · simp only [Except.mapError, Effect.ofExcept, pure, increased]
            rfl
      | ok limits =>
          left
          refine ⟨quotaSet, limits, ⟨got, increased⟩, ?_⟩
          simp only [Except.mapError, Effect.ofExcept, pure, increased]
          rfl

/-- What one turn of the loop does: it fails to read; or what it has read is sufficient, and
the loop ends; or it asks for more, or reports it in the last attempt. -/
inductive TurnCase (client : QuotaClient World Exc) (increase : GetLimitsIncrease)
    (required : RequiredQuotas) (level : Level) (attempt : RetryAttempt) (world : World)
    (rounds : List Round) :
    Except (QuotaError Exc) (Retry.Turn Unit Unit) → QuotaState World → Prop where
  | unread (error : QuotaError Exc)
      (unreadable : ∀ quotaSet limits, ¬Reads client increase required level
        (Int.fdiv 10 attempt.number) world quotaSet limits)
      (plain : ∀ project actual expected, error ≠ .ensureQuotaLimits project actual expected) :
      TurnCase client increase required level attempt world rounds (.error error)
        (client.afterGet level world, rounds)
  | sufficient (quotaSet : QuotaSet) (limits : Limits)
      (reads : Reads client increase required level (Int.fdiv 10 attempt.number) world quotaSet
        limits)
      (nothing : limits.expected.entries = []) :
      TurnCase client increase required level attempt world rounds (.ok (.leave ()))
        (client.afterGet level world, rounds ++ [⟨level, quotaSet, limits.expected⟩])
  | reported (quotaSet : QuotaSet) (limits : Limits)
      (reads : Reads client increase required level (Int.fdiv 10 attempt.number) world quotaSet
        limits)
      (something : limits.expected.entries ≠ []) (last : attempt.AtLimit) :
      TurnCase client increase required level attempt world rounds
        (.error (.ensureQuotaLimits level.project limits.actual limits.expected))
        (client.afterGet level world, rounds ++ [⟨level, quotaSet, limits.expected⟩])
  | requested (quotaSet : QuotaSet) (limits : Limits)
      (reads : Reads client increase required level (Int.fdiv 10 attempt.number) world quotaSet
        limits)
      (something : limits.expected.entries ≠ []) (free : ¬attempt.AtLimit) :
      TurnCase client increase required level attempt world rounds (.ok (.next ()))
        ((client.update level limits.expected (client.afterGet level world)).2,
          rounds ++ [⟨level, quotaSet, limits.expected⟩])

theorem ensureTurn_cases {attempt : RetryAttempt} {world : World} {rounds : List Round}
    {result : Except (QuotaError Exc) (Retry.Turn Unit Unit)} {after : QuotaState World}
    (ran : ensureTurn client increase required level attempt () (world, rounds) =
      some (result, after)) :
    TurnCase client increase required level attempt world rounds result after := by
  simp only [ensureTurn, bind, Effect.bind] at ran
  rcases @getLimitsIncrease_cases World Exc client increase required level
      (Int.fdiv 10 attempt.number) world rounds with
    ⟨quotaSet, limits, reads, got⟩ | ⟨unreadable, error, plain, failed⟩
  · rw [got] at ran
    dsimp only at ran
    split at ran
    · rename_i nothing
      cases ran
      exact .sufficient quotaSet limits reads (List.isEmpty_iff.mp nothing)
    · rename_i notNothing
      have something := mt List.isEmpty_iff.mpr notNothing
      split at ran
      · rename_i last
        cases ran
        exact .reported quotaSet limits reads something (RetryAttempt.isLast_iff.mp last)
      · rename_i notLast
        have free : ¬attempt.AtLimit := mt RetryAttempt.isLast_iff.mpr notLast
        dsimp only [request, Effect.update, Effect.bind] at ran
        cases answered : (client.update level limits.expected
            (client.afterGet level world)).1 with
        | ok done =>
            rw [answered] at ran
            cases ran
            exact .requested quotaSet limits reads something free
        | error exception =>
            rw [answered] at ran
            dsimp only at ran
            rw [if_neg (mt RetryAttempt.isLast_iff.mp free)] at ran
            cases ran
            exact .requested quotaSet limits reads something free
  · rw [failed] at ran
    cases ran
    exact .unread error unreadable plain

theorem ensureTurn_ends (client : QuotaClient World Exc) (increase : GetLimitsIncrease)
    (required : RequiredQuotas) (level : Level) (attempt : RetryAttempt) (none_ : Unit) :
    (ensureTurn client increase required level attempt none_).Ends := by
  apply Effect.ends_bind
  · rintro ⟨world, rounds⟩
    rcases getLimitsIncrease_cases (Int.fdiv 10 attempt.number) world rounds with
      ⟨quotaSet, limits, reads, got⟩ | ⟨unreadable, error, plain, failed⟩
    · rw [got]
      rfl
    · rw [failed]
      rfl
  · intro limits
    split
    · exact fun _ => rfl
    · split
      · exact fun _ => rfl
      · apply Effect.ends_bind (Effect.ends_update _)
        intro answer
        cases answer with
        | ok done => exact fun _ => rfl
        | error exception =>
            dsimp only
            split
            · exact fun _ => rfl
            · exact fun _ => rfl

end Turn

/-! ### Runs against any service -/

section Runs

variable {World Exc : Type} {client : QuotaClient World Exc} {increase : GetLimitsIncrease}
  {required : RequiredQuotas} {level : Level}

/-- The limits of the round are what the figures that it has read make of some extra increase. -/
def Round.Computed (increase : GetLimitsIncrease) (required : RequiredQuotas) (round : Round) :
    Prop :=
  ∃ extraIncrease limits, 0 ≤ extraIncrease ∧
    increase round.quotaSet extraIncrease required = .ok limits ∧ limits.expected = round.expected

def RoundsComputed (increase : GetLimitsIncrease) (required : RequiredQuotas)
    (rounds : List Round) : Prop :=
  ∀ round ∈ rounds, round.Computed increase required

/-- The limits that an error reports are those of a round. -/
def Reported (error : QuotaError Exc) (rounds : List Round) : Prop :=
  ∀ project actual expected, error = .ensureQuotaLimits project actual expected →
    ∃ round ∈ rounds, round.expected = expected

theorem roundsComputed_nil : RoundsComputed increase required [] :=
  fun _ member => (List.not_mem_nil member).elim

/-- However a run ends, its rounds are computed. -/
theorem computed_of_result {result : Except (QuotaError Exc) Unit} {rounds : List Round}
    (returned : ∀ value, result = .ok value → RoundsComputed increase required rounds)
    (raised : ∀ error, result = .error error →
      RoundsComputed increase required rounds ∧ Reported error rounds) :
    RoundsComputed increase required rounds := by
  cases result with
  | ok value => exact returned value rfl
  | error error => exact (raised error rfl).1

theorem RoundsComputed.concat {rounds : List Round} {quotaSet : QuotaSet} {limits : Limits}
    {extraIncrease : Int} (computed : RoundsComputed increase required rounds)
    (more : 0 ≤ extraIncrease)
    (increased : increase quotaSet extraIncrease required = .ok limits) :
    RoundsComputed increase required (rounds ++ [⟨level, quotaSet, limits.expected⟩]) := by
  intro round member
  rcases List.mem_append.mp member with before | now
  · exact computed round before
  · obtain rfl := List.mem_singleton.mp now
    exact ⟨extraIncrease, limits, more, increased, rfl⟩

theorem extraIncrease_nonneg {retry : Retry} {frame : Retry.Frame} {number : Int}
    (reached : frame.Reached retry number) : 0 ≤ Int.fdiv 10 frame.attempt.number := by
  have positive := reached.positive
  rw [reached.number_eq]
  apply Int.fdiv_nonneg
  · decide
  · omega

theorem ensureTurn_computed (retry : Retry) :
    Retry.KeepsGuarded retry (ensureTurn client increase required level)
      (fun _ _ state => RoundsComputed increase required state.2)
      (fun _ state => RoundsComputed increase required state.2)
      (fun error state => RoundsComputed increase required state.2 ∧ Reported error state.2) := by
  rintro frame number _ reached ⟨world, rounds⟩ computed result after ran
  have more := extraIncrease_nonneg reached
  cases ensureTurn_cases ran with
  | unread error unreadable plain =>
      refine ⟨fun turn same => (by cases same), fun other same => ?_⟩
      cases same
      exact ⟨computed, fun project actual expected same => absurd same (plain _ _ _)⟩
  | sufficient quotaSet limits reads nothing =>
      refine ⟨fun turn same => ?_, fun error same => by cases same⟩
      cases same
      exact computed.concat more reads.increased
  | reported quotaSet limits reads something last =>
      refine ⟨fun turn same => (by cases same), fun error same => ?_⟩
      cases same
      refine ⟨computed.concat more reads.increased, fun project actual expected same => ?_⟩
      cases same
      exact ⟨_, List.mem_append_right _ List.mem_cons_self, rfl⟩
  | requested quotaSet limits reads something free =>
      refine ⟨fun turn same => ?_, fun error same => by cases same⟩
      cases same
      exact ⟨free, computed.concat more reads.increased⟩

theorem ensureLevel_computed (client : QuotaClient World Exc) (increase : GetLimitsIncrease)
    (required : RequiredQuotas) (level : Level) (clock : Clock World)
    (retryTimeout retryInterval : Seconds) (turns : Nat) :
    Effect.Ensures (fun state => RoundsComputed increase required state.2)
      (ensureLevel client increase required level clock retryTimeout retryInterval turns)
      (fun _ state => RoundsComputed increase required state.2)
      (fun error state => RoundsComputed increase required state.2 ∧ Reported error state.2) :=
  Retry.loop_ensures_guarded (fun _ _ => Retry.untimed_paired clock _) (ensureTurn_computed _)
    turns ()

/-- What a run asks for is right: of the services and in its error. -/
structure RightRun (required : RequiredQuotas) (result : Except (QuotaError Exc) Unit)
    (rounds : List Round) : Prop where
  requested : ∀ round ∈ rounds, RightLimits required round.quotaSet round.expected
  reported : ∀ error, result = .error error → Reported error rounds

theorem ensureNeutron_computed (client : QuotaClient World Exc) (required : RequiredQuotas)
    (clock : Clock World) (project : String) (retryTimeout retryInterval : Seconds)
    (turns : Nat) :
    Effect.Ensures (fun state => RoundsComputed getNeutronQuotaLimitsIncrease required state.2)
      (ensureNeutronQuotaLimits client required clock project retryTimeout retryInterval turns)
      (fun _ state => RoundsComputed getNeutronQuotaLimitsIncrease required state.2)
      (fun error state => RoundsComputed getNeutronQuotaLimitsIncrease required state.2 ∧
        Reported error state.2) := by
  unfold ensureNeutronQuotaLimits
  split
  · exact Effect.ensures_pure fun _ computed => computed
  · exact ensureLevel_computed client _ required _ clock retryTimeout retryInterval turns

theorem ensureNova_computed (client : QuotaClient World Exc) (required : RequiredQuotas)
    (clock : Clock World) (project : String) (user : Option String)
    (retryTimeout retryInterval : Seconds) (turns : Nat) :
    Effect.Ensures (fun state => RoundsComputed getNovaQuotaLimitsIncrease required state.2)
      (ensureNovaQuotaLimits client required clock project user retryTimeout retryInterval turns)
      (fun _ state => RoundsComputed getNovaQuotaLimitsIncrease required state.2)
      (fun error state => RoundsComputed getNovaQuotaLimitsIncrease required state.2 ∧
        Reported error state.2) := by
  unfold ensureNovaQuotaLimits
  split
  · exact Effect.ensures_pure fun _ computed => computed
  · have last := ensureLevel_computed client getNovaQuotaLimitsIncrease required ⟨project, user⟩
      clock retryTimeout retryInterval turns
    dsimp only
    split
    · exact Effect.ensures_bind _ (ensureLevel_computed client _ required _ clock _ _ turns)
        fun _ => last
    · exact last

end Runs

/-! ### Runs against a service that applies each update -/

/-- Nothing but an update changes the figures, and it changes the limits of its level as it is
asked to. -/
structure Applies {World Exc : Type} (client : QuotaClient World Exc) (clock : Clock World)
    (figures : World → Level → QuotaSet) : Prop where
  get : ∀ level world, (client.get level world).1 = .ok (figures world level)
  kept : ∀ level world, figures (client.get level world).2 = figures world
  update : ∀ level limits world,
    Updated limits (figures world level) (figures (client.update level limits world).2 level)
  time : ∀ world, figures (clock.time world).2 = figures world
  sleep : ∀ seconds world, figures (clock.sleep seconds world) = figures world

/-- The service has the required quotas. -/
def Knows {World : Type} (figures : World → Level → QuotaSet) (required : RequiredQuotas) : Prop :=
  ∀ world level, ∀ name ∈ required.keys, name ∈ (figures world level).keys

/-- The number of rounds that asked for limits of the level. -/
def updatesAt (level : Level) (rounds : List Round) : Nat :=
  rounds.countP fun round => decide (round.level = level) && !round.expected.entries.isEmpty

/-- No more than one update has been asked for, of this level, behind those rounds. -/
def SettledAt {World : Type} (level : Level) (before : List Round) (state : QuotaState World) :
    Prop :=
  ∃ rounds, state.2 = before ++ rounds ∧
    ∀ other, updatesAt other rounds ≤ if other = level then 1 else 0

section Applying

variable {World Exc : Type} {client : QuotaClient World Exc} {clock : Clock World}
  {figures : World → Level → QuotaSet} {tooLow : Int → Int → Bool} {required : RequiredQuotas}
  {level : Level} {before : List Round}

/-- The first attempt is about to be made; or it has asked for more, and that is there now. -/
def Settling (figures : World → Level → QuotaSet) (tooLow : Int → Int → Bool)
    (required : RequiredQuotas) (level : Level) (before : List Round) (number : Int)
    (state : QuotaState World) : Prop :=
  (number = 1 ∧ state.2 = before) ∨
    number = 2 ∧ (∃ round, state.2 = before ++ [round] ∧ round.level = level) ∧
      ∀ extraIncrease limits,
        increaseWhere tooLow (figures state.1 level) extraIncrease required = .ok limits →
          limits.expected.entries = []

theorem Applies.untimed (applies : Applies client clock figures) (number : Int) :
    Retry.Untimed (clock.paired (List Round))
      (Settling figures tooLow required level before number) where
  time := by
    rintro ⟨world, rounds⟩ settling
    unfold Settling
    rw [show (clock.paired (List Round)).time (world, rounds) =
      ((clock.time world).1, ((clock.time world).2, rounds)) from rfl]
    dsimp only
    rw [applies.time]
    exact settling
  sleep := by
    rintro seconds ⟨world, rounds⟩ settling
    unfold Settling
    rw [show (clock.paired (List Round)).sleep seconds (world, rounds) =
      (clock.sleep seconds world, rounds) from rfl]
    dsimp only
    rw [applies.sleep]
    exact settling

theorem settledAt_one {quotaSet : QuotaSet} {limits : Limits} {world : World}
    (nothing : limits.expected.entries = []) :
    SettledAt level before (world, before ++ [⟨level, quotaSet, limits.expected⟩]) := by
  refine ⟨_, rfl, fun other => ?_⟩
  simp [updatesAt, nothing]

theorem settledAt_two {round : Round} {quotaSet : QuotaSet} {limits : Limits} {world : World}
    (same : round.level = level) (nothing : limits.expected.entries = []) :
    SettledAt level before (world, (before ++ [round]) ++ [⟨level, quotaSet, limits.expected⟩]) := by
  refine ⟨[round, ⟨level, quotaSet, limits.expected⟩], by simp, fun other => ?_⟩
  rw [updatesAt, List.countP_cons, List.countP_singleton]
  by_cases here : other = level
  · have one : List.countP (fun round : Round => decide (round.level = other) &&
        !round.expected.entries.isEmpty) [⟨level, quotaSet, limits.expected⟩] = 0 := by
      simp [nothing]
    rw [List.countP_singleton] at one
    rw [if_pos here, one]
    split
    · omega
    · omega
  · have apart : ¬level = other := fun equal => here equal.symm
    simp [here, same, apart]

theorem ensureTurn_settles (applies : Applies client clock figures) (knows : Knows figures required)
    (generous : ∀ requiredLimit, tooLow requiredLimit (requiredLimit + 10) = false)
    (retryTimeout retryInterval : Seconds) :
    Retry.KeepsGuarded (ensureRetry retryTimeout retryInterval)
      (ensureTurn client (increaseWhere tooLow) required level)
      (fun number _ => Settling figures tooLow required level before number)
      (fun _ => SettledAt level before) (fun _ _ => False) := by
  rintro frame number _ reached ⟨world, rounds⟩ settling result after ran
  have settled : number = 2 → ∀ quotaSet limits, Reads client (increaseWhere tooLow) required
      level (Int.fdiv 10 frame.attempt.number) world quotaSet limits →
      limits.expected.entries = [] := by
    rintro rfl quotaSet limits reads
    rcases settling with ⟨first, -⟩ | ⟨-, -, satisfied⟩
    · cases first
    · have got := reads.got
      rw [applies.get] at got
      cases got
      exact satisfied _ limits reads.increased
  cases ensureTurn_cases ran with
  | unread error unreadable plain =>
      obtain ⟨limits, increased⟩ := limitsIncrease_ok .none (knows world level)
      exact absurd ⟨applies.get level world, increased⟩ (unreadable (figures world level) limits)
  | sufficient quotaSet limits reads nothing =>
      refine ⟨fun turn same => ?_, fun error same => by cases same⟩
      cases same
      rcases settling with ⟨-, rfl⟩ | ⟨-, ⟨round, rfl, same⟩, -⟩
      · exact settledAt_one nothing
      · exact settledAt_two same nothing
  | reported quotaSet limits reads something last =>
      rcases settling with ⟨rfl, -⟩ | ⟨second, -⟩
      · exact absurd last (not_atLimit_first reached)
      · exact absurd (settled second quotaSet limits reads) something
  | requested quotaSet limits reads something free =>
      refine ⟨fun turn same => ?_, fun error same => by cases same⟩
      cases same
      refine ⟨free, ?_⟩
      rcases settling with ⟨rfl, rfl⟩ | ⟨second, -⟩
      · refine .inr ⟨rfl, ⟨_, rfl, rfl⟩, fun extraIncrease again increased => ?_⟩
        have first := reads.increased
        have updated := applies.update level limits.expected (client.afterGet level world)
        have got := reads.got
        rw [applies.get] at got
        cases got
        rw [reached.number_eq] at first
        rw [QuotaClient.afterGet, applies.kept] at updated
        exact expected_nil_of_updated generous first updated increased
      · exact absurd (settled second quotaSet limits reads) something

theorem ensureLevel_settles (applies : Applies client clock figures)
    (knows : Knows figures required)
    (generous : ∀ requiredLimit, tooLow requiredLimit (requiredLimit + 10) = false)
    (retryTimeout retryInterval : Seconds) {turns : Nat} (enough : 2 ≤ turns) :
    Effect.Achieves (fun state => state.2 = before)
      (ensureLevel client (increaseWhere tooLow) required level clock retryTimeout retryInterval
        turns) (fun _ => SettledAt level before) := by
  have keeps : Retry.KeepsGuarded (ensureRetry retryTimeout retryInterval) _
      (fun number _ => Settling figures tooLow required level before number)
      (fun _ => SettledAt level before) _ :=
    ensureTurn_settles applies knows generous retryTimeout retryInterval
  have start : ∀ state : QuotaState World, state.2 = before →
      Settling figures tooLow required level before 1 state := fun state same => .inl ⟨rfl, same⟩
  apply Effect.achieves_of_ensures
  · exact (Retry.loop_ensures_guarded (fun number _ => applies.untimed number) keeps turns ()).mono
      start (fun _ _ settled => settled) fun _ _ raised => raised
  · intro state same
    apply Retry.loop_ends_guarded (fun number _ => applies.untimed number) keeps _
      (ensureTurn_ends client _ required level) enough () (start state same)
    rintro number - state (⟨rfl, -⟩ | ⟨rfl, -⟩)
    · decide
    · decide

theorem neutron_generous (requiredLimit : Int) :
    neutronTooLow requiredLimit (requiredLimit + 10) = false := by
  rw [neutronTooLow, decide_eq_false_iff_not]
  omega

theorem nova_generous (requiredLimit : Int) :
    novaTooLow requiredLimit (requiredLimit + 10) = false := by
  rw [novaTooLow, decide_eq_false_iff_not]
  omega

/-- Started without rounds, the call returns after one update of each level at most. -/
def Settles (call : Nat → Effect (QuotaError Exc) (QuotaState World) Unit) : Prop :=
  ∀ turns, 2 ≤ turns → ∀ world, ∃ after, call turns (world, []) = some (.ok (), after) ∧
    ∀ level, updatesAt level after.2 ≤ 1

theorem SettledAt.updatesAt_le {state : QuotaState World} (settled : SettledAt level [] state)
    (other : Level) : updatesAt other state.2 ≤ if other = level then 1 else 0 := by
  obtain ⟨rounds, rounds_eq, few⟩ := settled
  rw [rounds_eq]
  exact few other

/-- The rounds behind settled ones count on their own. -/
theorem SettledAt.updatesAt_append {state : QuotaState World}
    (settled : SettledAt level before state) (other : Level) :
    updatesAt other state.2 ≤ updatesAt other before + if other = level then 1 else 0 := by
  obtain ⟨rounds, rounds_eq, few⟩ := settled
  rw [rounds_eq, updatesAt, List.countP_append]
  exact Nat.add_le_add_left (few other) _

theorem ensureLevel_returns (applies : Applies client clock figures)
    (knows : Knows figures required)
    (generous : ∀ requiredLimit, tooLow requiredLimit (requiredLimit + 10) = false)
    (level : Level) (retryTimeout retryInterval : Seconds) :
    Settles (ensureLevel client (increaseWhere tooLow) required level clock retryTimeout
      retryInterval) := by
  intro turns enough world
  obtain ⟨done, after, ran, settled⟩ := ensureLevel_settles applies knows generous
    retryTimeout retryInterval enough (world, []) rfl
  refine ⟨after, ran, fun other => ?_⟩
  have few := settled.updatesAt_le other
  split at few
  · exact few
  · omega

theorem ensureNeutron_settles (applies : Applies client clock figures)
    (knows : Knows figures required) (project : String) (retryTimeout retryInterval : Seconds) :
    Settles (ensureNeutronQuotaLimits client required clock project retryTimeout
      retryInterval) := by
  intro turns enough world
  unfold ensureNeutronQuotaLimits
  split
  · exact ⟨(world, []), rfl, fun level => by simp [updatesAt]⟩
  · exact ensureLevel_returns applies knows neutron_generous _ retryTimeout retryInterval turns
      enough world

theorem ensureNova_settles (applies : Applies client clock figures)
    (knows : Knows figures required) (project : String) (user : Option String)
    (retryTimeout retryInterval : Seconds) :
    Settles (ensureNovaQuotaLimits client required clock project user retryTimeout
      retryInterval) := by
  intro turns enough world
  unfold ensureNovaQuotaLimits
  split
  · exact ⟨(world, []), rfl, fun level => by simp [updatesAt]⟩
  · cases user with
    | none =>
        exact ensureLevel_returns applies knows nova_generous _ retryTimeout retryInterval turns
          enough world
    | some user =>
        have both : Effect.Achieves (fun state : QuotaState World => state.2 = [])
            (ensureLevel client getNovaQuotaLimitsIncrease required ⟨project, none⟩ clock none none
              turns >>= fun _ => ensureLevel client getNovaQuotaLimitsIncrease required
                ⟨project, some user⟩ clock retryTimeout retryInterval turns)
            fun _ state => ∀ level, updatesAt level state.2 ≤ 1 := by
          apply Effect.achieves_bind
            (ensureLevel_settles applies knows nova_generous none none enough)
          intro _ middle projectSettled
          obtain ⟨done, after, ran, userSettled⟩ := ensureLevel_settles applies knows nova_generous
            retryTimeout retryInterval enough middle rfl
          refine ⟨done, after, ran, fun level => ?_⟩
          have first := projectSettled.updatesAt_le level
          have second := userSettled.updatesAt_append level
          by_cases isProject : level = ⟨project, none⟩
          · have notUser : level ≠ ⟨project, some user⟩ := by simp [isProject]
            rw [if_pos isProject] at first
            rw [if_neg notUser] at second
            omega
          · rw [if_neg isProject] at first
            split at second
            · omega
            · omega
        obtain ⟨done, after, ran, few⟩ := both (world, []) rfl
        exact ⟨after, ran, few⟩

end Applying

/-! ### The two services -/

section Services

variable {World Exc : Type} (client : QuotaClient World Exc) (required : RequiredQuotas)
  (clock : Clock World)

/-- What a call ought to do: what it asks for is right in every run, and it returns after one
update of each level at most when the service applies each update. -/
structure Assured (call : Nat → Effect (QuotaError Exc) (QuotaState World) Unit) : Prop where
  right : ∀ turns world result after, call turns (world, []) = some (result, after) →
    RightRun required result after.2
  settles : ∀ figures, Applies client clock figures → Knows figures required → Settles call

/-- **The quota limits.** Neutron's call asks for the right limits in every run, and Nova's in
the runs that read no limit that is just enough, and in no other. Both return after one update of
each level at most when the service applies each update, and they agree on figures of which none
is just enough. -/
theorem ensure_quota_limits_iff (project : String) (user : Option String)
    (retryTimeout retryInterval : Seconds) :
    Assured client required clock
      (ensureNeutronQuotaLimits client required clock project retryTimeout retryInterval) ∧
    (∀ turns world result after,
      ensureNovaQuotaLimits client required clock project user retryTimeout retryInterval turns
        (world, []) = some (result, after) →
      (RightRun required result after.2 ↔
        ∀ round ∈ after.2, NoneExactlyEnough required round.quotaSet)) ∧
    (∀ figures, Applies client clock figures → Knows figures required →
      Settles (ensureNovaQuotaLimits client required clock project user retryTimeout
        retryInterval)) ∧
    ∀ quotaSet extraIncrease, NoneExactlyEnough required quotaSet →
      getNovaQuotaLimitsIncrease quotaSet extraIncrease required =
        getNeutronQuotaLimitsIncrease quotaSet extraIncrease required := by
  refine ⟨⟨?_, ?_⟩, ?_, ?_, fun _ _ => nova_eq_neutron⟩
  · intro turns world result after ran
    obtain ⟨returned, raised⟩ := ensureNeutron_computed client required clock project retryTimeout
      retryInterval turns (world, []) roundsComputed_nil result after ran
    have computed := computed_of_result returned raised
    refine ⟨fun round member => ?_, fun error same => (raised error same).2⟩
    obtain ⟨extraIncrease, limits, more, increased, same⟩ := computed round member
    rw [← same]
    exact neutron_rightLimits more increased
  · exact fun figures applies knows =>
      ensureNeutron_settles applies knows project retryTimeout retryInterval
  · intro turns world result after ran
    obtain ⟨returned, raised⟩ := ensureNova_computed client required clock project user
      retryTimeout retryInterval turns (world, []) roundsComputed_nil result after ran
    have computed := computed_of_result returned raised
    have right_iff : ∀ round ∈ after.2, RightLimits required round.quotaSet round.expected ↔
        NoneExactlyEnough required round.quotaSet := by
      intro round member
      obtain ⟨extraIncrease, limits, more, increased, same⟩ := computed round member
      rw [← same]
      exact nova_rightLimits_iff more increased
    constructor
    · exact fun right round member => (right_iff round member).mp (right.requested round member)
    · exact fun noneExact => ⟨fun round member =>
        (right_iff round member).mpr (noneExact round member),
        fun error same => (raised error same).2⟩
  · exact fun figures applies knows =>
      ensureNova_settles applies knows project user retryTimeout retryInterval

end Services

section Cores

/-- The quota of the cores, with ten in use. -/
def coresQuota (limit : Int) : QuotaSet := ⟨[("cores", ⟨limit, 10, 0⟩)], by simp⟩

/-- A service that applies each update; its world tells the time and the limit of the cores. -/
def coresClient : QuotaClient (ℚ × Int) Unit where
  get _ world := (.ok (coresQuota world.2), world)
  update _ limits world := (.ok (), world.1, (limits.get? "cores").getD world.2)

def coresClock : Clock (ℚ × Int) := Clock.ideal.paired Int

def tenCores : RequiredQuotas := ⟨[("cores", 10)], by simp⟩

theorem coresClient_applies :
    Applies coresClient coresClock fun world _ => coresQuota world.2 where
  get := fun _ _ => rfl
  kept := fun _ _ => rfl
  time := fun _ => rfl
  sleep := fun _ _ => rfl
  update := by
    rintro level limits ⟨now, limit⟩ name
    by_cases isCores : name = "cores"
    · subst isCores
      change some _ = some _
      dsimp only [coresClient]
      cases limits.get? "cores" with
      | none => rfl
      | some other => rfl
    · have absent : ∀ limit, (coresQuota limit).get? name = none := by
        intro limit
        rw [← Option.not_isSome_iff_eq_none, Dict.isSome_get?]
        simpa [coresQuota, Dict.keys] using isCores
      rw [absent, absent]
      rfl

theorem coresClient_knows :
    Knows (fun (world : ℚ × Int) (_ : Level) => coresQuota world.2) tenCores :=
  fun _ _ _ member => member

theorem ensure_quota_limits_iff_cores :
    Settles (ensureNeutronQuotaLimits coresClient tenCores coresClock "demo" none none) ∧
      Settles (ensureNovaQuotaLimits coresClient tenCores coresClock "demo" (some "user") none
        none) :=
  have both := ensure_quota_limits_iff coresClient tenCores coresClock "demo" (some "user") none none
  ⟨both.1.settles _ coresClient_applies coresClient_knows,
    both.2.2.1 _ coresClient_applies coresClient_knows⟩

/-- With twenty cores, of which ten are in use, ten more are just enough; Nova is asked for
thirty. -/
theorem ensureNova_twentyCores :
    (ensureNovaQuotaLimits coresClient tenCores coresClock "demo" none none none 2
      ((0, 20), [])).map (fun ended => ended.2.2.map fun round =>
        (round.quotaSet.entries, round.expected.entries)) =
      some [([("cores", ⟨20, 10, 0⟩)], [("cores", 30)]), ([("cores", ⟨30, 10, 0⟩)], [])] := by
  decide +kernel

theorem nova_not_assured :
    ¬Assured coresClient tenCores coresClock
      (ensureNovaQuotaLimits coresClient tenCores coresClock "demo" none none none) := by
  intro assured
  obtain ⟨⟨result, after⟩, ran, shape⟩ := Option.map_eq_some_iff.mp ensureNova_twentyCores
  obtain ⟨round, rounds, rounds_eq, first, -⟩ := List.map_eq_cons_iff.mp shape
  have member : round ∈ after.2 := by
    rw [rounds_eq]
    exact List.mem_cons_self
  have right := (assured.right 2 (0, 20) result after ran).requested round member
  obtain ⟨figures, limits⟩ := Prod.mk.inj first
  have asked : "cores" ∈ round.expected.keys := by
    rw [Dict.keys, limits]
    exact List.mem_cons_self
  obtain ⟨needed, quota, ⟨needed_eq, quota_eq⟩, -, below⟩ := (right.exactly "cores").mp asked
  have ten : needed = 10 := (Option.some.inj needed_eq).symm
  have twenty : quota = ⟨20, 10, 0⟩ := by
    rw [Dict.get?, figures] at quota_eq
    exact (Option.some.inj quota_eq).symm
  subst ten
  subst twenty
  exact absurd below (by decide)

end Cores

end Tobiko.Openstack.Quotas
