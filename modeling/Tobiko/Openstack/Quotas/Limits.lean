import Tobiko.Common.RetryLimits
import Tobiko.Common.RetryLoop
import Tobiko.Openstack.Quotas.Increase

/-!
Contract: `ensure_nova_quota_limits` of `tobiko/openstack/nova/_quota_set.py` and
`ensure_neutron_quota_limits` of `tobiko/openstack/neutron/_quota_set.py`.

Owns: the levels of a quota set, the requests to a service with what they change, the loop that
the two functions share, and Nova's call for the project before the one for the user.

Does not own: the limits that are asked for (`Increase`), and what the runs have in common
(`Assurance`).
-/

namespace Tobiko.Openstack.Quotas

open Tobiko.Common Tobiko.Common.Time Tobiko.Foundation

/-- Whose quota set it is: the project's, or the one of a user in it. -/
structure Level where
  project : String
  user : Option String
deriving DecidableEq

inductive QuotaError (Exc : Type) where
  | request (exception : Exc)
  | missingQuota (name : String)
  | ensureQuotaLimits (project : String) (actual expected : Dict String Int)
  | retryLimit (error : RetryLimitError)
  | brokenRetryLoop

/-- The client of a service. -/
structure QuotaClient (World Exc : Type) where
  get : Level → World → Except Exc QuotaSet × World
  update : Level → Dict String Int → World → Except Exc Unit × World

/-- What an attempt has read and the limits that it has asked for, or has reported in the last
attempt. -/
structure Round where
  level : Level
  quotaSet : QuotaSet
  expected : Dict String Int

section Ensure

variable {World Exc : Type} (client : QuotaClient World Exc) (increase : GetLimitsIncrease)
  (required : RequiredQuotas) (level : Level)

/-- The world, and the rounds so far. -/
abbrev QuotaState (World : Type) := World × List Round

/-- A request of the client. -/
def request {Answer : Type} (send : World → Answer × World) :
    Effect (QuotaError Exc) (QuotaState World) Answer :=
  Effect.update fun (world, rounds) => ((send world).1, (send world).2, rounds)

/-- `get_..._quota_limits_increase(...)`, with the quota set that it reads. -/
def getLimitsIncrease (extraIncrease : Int) :
    Effect (QuotaError Exc) (QuotaState World) Limits := do
  let answer ← request (client.get level)
  let quotaSet ← Effect.ofExcept (answer.mapError .request)
  let limits ← Effect.ofExcept ((increase quotaSet extraIncrease required).mapError .missingQuota)
  Effect.modify fun (world, rounds) => (world, rounds ++ [⟨level, quotaSet, limits.expected⟩])
  pure limits

/-- The body of the loop. -/
def ensureTurn (attempt : RetryAttempt) (_ : Unit) :
    Effect (QuotaError Exc) (QuotaState World) (Retry.Turn Unit Unit) := do
  let limits ← getLimitsIncrease client increase required level (Int.fdiv 10 attempt.number)
  if limits.expected.entries.isEmpty then
    pure (.leave ())
  else if attempt.isLast (none : Option (QuotaError Exc)) then
    Effect.raise (.ensureQuotaLimits level.project limits.actual limits.expected)
  else
    let answer ← request (client.update level limits.expected)
    match answer with
    | .ok () => pure (.next ())
    | .error exception =>
        if attempt.isLast (some exception) then
          Effect.raise (.request exception)
        else
          pure (.next ())

/-- `tobiko.retry(timeout=retry_timeout, interval=retry_interval, ...)` -/
def ensureRetry (retryTimeout retryInterval : Seconds) : Retry :=
  retry
    { otherRetry := none
      count := none
      timeout := retryTimeout.map (↑)
      sleepTime := none
      interval := retryInterval.map (↑)
      defaultCount := none
      defaultTimeout := some 60
      defaultSleepTime := none
      defaultInterval := some 3 }

/-- What both functions do for one level, in so many turns of the loop. -/
def ensureLevel (clock : Clock World) (retryTimeout retryInterval : Seconds) (turns : Nat) :
    Effect (QuotaError Exc) (QuotaState World) Unit :=
  (ensureRetry retryTimeout retryInterval).loop (clock.paired (List Round))
    ⟨.retryLimit, .brokenRetryLoop⟩ (ensureTurn client increase required level) turns ()

def ensureNeutronQuotaLimits (clock : Clock World) (project : String)
    (retryTimeout retryInterval : Seconds) (turns : Nat) :
    Effect (QuotaError Exc) (QuotaState World) Unit :=
  if required.entries.isEmpty then
    pure ()
  else
    ensureLevel client getNeutronQuotaLimitsIncrease required ⟨project, none⟩ clock
      retryTimeout retryInterval turns

/-- With a user, the call for the project comes first, with the default times. -/
def ensureNovaQuotaLimits (clock : Clock World) (project : String) (user : Option String)
    (retryTimeout retryInterval : Seconds) (turns : Nat) :
    Effect (QuotaError Exc) (QuotaState World) Unit :=
  if required.entries.isEmpty then
    pure ()
  else do
    if user.isSome then
      ensureLevel client getNovaQuotaLimitsIncrease required ⟨project, none⟩ clock none none turns
    ensureLevel client getNovaQuotaLimitsIncrease required ⟨project, user⟩ clock
      retryTimeout retryInterval turns

end Ensure

/-! ### The limits of the loop -/

theorem ensureRetry_count (retryTimeout retryInterval : Seconds) :
    (ensureRetry retryTimeout retryInterval).count = none := rfl

/-- The timeout is positive: a given zero counts as not given. -/
theorem ensureRetry_timeout (retryTimeout retryInterval : Seconds) :
    ∃ timeout : ℚ≥0, (ensureRetry retryTimeout retryInterval).timeout = some timeout ∧
      0 < timeout := by
  have given : ∃ value : ℚ,
      orOther (retryTimeout.map ((↑) : ℚ≥0 → ℚ)) (some 60) = some value ∧ 0 < value := by
    cases retryTimeout with
    | none => exact ⟨60, rfl, by norm_num⟩
    | some timeout =>
        by_cases zero : timeout = 0
        · subst zero
          exact ⟨60, orOther_of_falsy (.inr rfl) _, by norm_num⟩
        · refine ⟨timeout, orOther_of_ne_zero (by exact_mod_cast zero) _, ?_⟩
          exact_mod_cast pos_iff_ne_zero.mpr zero
  obtain ⟨value, value_eq, positive⟩ := given
  refine ⟨toSecondsFloat value, congrArg toSeconds value_eq, ?_⟩
  have same : (toSecondsFloat value : ℚ) = value := by
    rw [coe_toSecondsFloat, max_eq_left (le_of_lt positive)]
  rw [← same] at positive
  exact_mod_cast positive

/-- The first attempt is never the last one. -/
theorem not_atLimit_first {retryTimeout retryInterval : Seconds} {frame : Retry.Frame}
    (reached : frame.Reached (ensureRetry retryTimeout retryInterval) 1) :
    ¬frame.attempt.AtLimit := by
  obtain ⟨timeout, timeout_eq, positive⟩ := ensureRetry_timeout retryTimeout retryInterval
  rw [RetryAttempt.AtLimit, reached.count_eq, ensureRetry_count, reached.timeout_eq, timeout_eq,
    reached.first rfl]
  rintro (⟨count, same, -⟩ | ⟨other, same, passed⟩)
  · cases same
  · cases same
    exact absurd (show (timeout : ℚ) ≤ 0 from passed) (not_le.mpr (by exact_mod_cast positive))

end Tobiko.Openstack.Quotas
