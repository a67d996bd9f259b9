import Tobiko.Foundation.Dictionary
import Mathlib.Algebra.Order.Group.Unbundled.Int

/-!
Contract: `get_nova_quota_limits_increase` and `get_neutron_quota_limits_increase` of
`tobiko/openstack/nova/_quota_set.py` and `tobiko/openstack/neutron/_quota_set.py`.

Owns: the figures of a quota, the limits that are asked for, which quotas get one, and when the
two functions agree.

Does not own: the requests to the services.

The two functions differ in one comparison: Nova asks for more where the limit is just enough.
-/

namespace Tobiko.Openstack.Quotas

open Tobiko.Foundation

/-- The figures of a quota; Nova calls `in_use` what Neutron calls `used`. -/
structure Quota where
  limit : Int
  used : Int
  reserved : Int
deriving DecidableEq

abbrev QuotaSet := Dict String Quota

abbrev RequiredQuotas := Dict String Int

/-- The limit that the needed amount requires; a negative figure counts as nothing used. -/
def Quota.requiredLimit (quota : Quota) (needed : Int) : Int :=
  max 0 quota.used + max 0 quota.reserved + needed

/-- `actual_limits` and `expected_limits` -/
structure Limits where
  actual : Dict String Int
  expected : Dict String Int

def Limits.none : Limits := ⟨.empty, .empty⟩

section Increase

variable (tooLow : Int → Int → Bool) (extraIncrease : Int)

/-- What one of the required quotas adds to the limits. -/
def Limits.add (limits : Limits) (name : String) (quota : Quota) (needed : Int) : Limits :=
  if 0 ≤ quota.limit then
    let requiredLimit := quota.requiredLimit needed
    if tooLow requiredLimit quota.limit then
      { actual := limits.actual.set name quota.limit
        expected := limits.expected.set name (requiredLimit + extraIncrease) }
    else
      limits
  else
    limits

/-- The loop over the required quotas; it fails with the name of a quota that is missing. -/
def limitsIncrease (quotaSet : QuotaSet) : List (String × Int) → Limits → Except String Limits
  | [], limits => .ok limits
  | (name, needed) :: required, limits =>
      match quotaSet.get? name with
      | none => .error name
      | some quota =>
          limitsIncrease quotaSet required (limits.add tooLow extraIncrease name quota needed)

end Increase

/-- `required_limit >= limit` -/
def novaTooLow (requiredLimit limit : Int) : Bool := decide (limit ≤ requiredLimit)

/-- `required_limit > limit` -/
def neutronTooLow (requiredLimit limit : Int) : Bool := decide (limit < requiredLimit)

/-- How one of the services increases its limits. -/
abbrev GetLimitsIncrease := QuotaSet → Int → RequiredQuotas → Except String Limits

def increaseWhere (tooLow : Int → Int → Bool) : GetLimitsIncrease :=
  fun quotaSet extraIncrease required =>
    limitsIncrease tooLow extraIncrease quotaSet required.entries .none

def getNovaQuotaLimitsIncrease : GetLimitsIncrease := increaseWhere novaTooLow

def getNeutronQuotaLimitsIncrease : GetLimitsIncrease := increaseWhere neutronTooLow

/-! ### Which limits are asked for -/

section Low

variable {tooLow : Int → Int → Bool} {extraIncrease : Int} {quotaSet : QuotaSet}

/-- The quota with the name, if its limit is too low, and what is needed of it. -/
def lowQuota (tooLow : Int → Int → Bool) (quotaSet : QuotaSet) (required : List (String × Int))
    (name : String) : Option (Quota × Int) :=
  (required.lookup name).bind fun needed => (quotaSet.get? name).bind fun quota =>
    if 0 ≤ quota.limit ∧ tooLow (quota.requiredLimit needed) quota.limit then
      some (quota, needed)
    else
      none

theorem lowQuota_eq_some {required : List (String × Int)} {name : String} {quota : Quota}
    {needed : Int} :
    lowQuota tooLow quotaSet required name = some (quota, needed) ↔
      required.lookup name = some needed ∧ quotaSet.get? name = some quota ∧ 0 ≤ quota.limit ∧
        tooLow (quota.requiredLimit needed) quota.limit = true := by
  unfold lowQuota
  rw [Option.bind_eq_some_iff]
  constructor
  · rintro ⟨other, needed_eq, found⟩
    obtain ⟨same, quota_eq, low⟩ := Option.bind_eq_some_iff.mp found
    split at low
    · rename_i isLow
      cases low
      exact ⟨needed_eq, quota_eq, isLow⟩
    · cases low
  · rintro ⟨needed_eq, quota_eq, isLow⟩
    exact ⟨needed, needed_eq, Option.bind_eq_some_iff.mpr ⟨quota, quota_eq, if_pos isLow⟩⟩

/-- The limits that are read back, behind those of the quotas that are left to do. -/
theorem limitsIncrease_spec {required : List (String × Int)} {limits after : Limits}
    (distinct : (required.map Prod.fst).Nodup)
    (passed : limitsIncrease tooLow extraIncrease quotaSet required limits = .ok after)
    (name : String) :
    after.actual.get? name =
        ((lowQuota tooLow quotaSet required name).map fun low => low.1.limit).or
          (limits.actual.get? name) ∧
      after.expected.get? name =
        ((lowQuota tooLow quotaSet required name).map fun low =>
          low.1.requiredLimit low.2 + extraIncrease).or (limits.expected.get? name) := by
  induction required generalizing limits with
  | nil =>
      cases passed
      exact ⟨rfl, rfl⟩
  | cons head required inductionHypothesis =>
      obtain ⟨first, needed⟩ := head
      obtain ⟨fresh, rest⟩ := List.nodup_cons.mp distinct
      rw [limitsIncrease] at passed
      cases found : quotaSet.get? first with
      | none =>
          rw [found] at passed
          cases passed
      | some quota =>
          rw [found] at passed
          obtain ⟨actual, expected⟩ := inductionHypothesis rest passed
          rw [actual, expected]
          unfold lowQuota Limits.add
          rw [Dict.lookup_cons_eq]
          by_cases same : name = first
          · subst same
            have absent : required.lookup name = none := by
              rw [← Option.not_isSome_iff_eq_none, Dict.isSome_lookup]
              exact fresh
            rw [absent, if_pos rfl]
            simp only [Option.bind_none, Option.map_none, Option.none_or, Option.bind_some, found]
            by_cases limited : 0 ≤ quota.limit
            · by_cases low : tooLow (quota.requiredLimit needed) quota.limit = true
              · simp [limited, low, Dict.get?_set]
              · simp [limited, low]
            · simp [limited]
          · rw [if_neg same]
            by_cases limited : 0 ≤ quota.limit
            · by_cases low : tooLow (quota.requiredLimit needed) quota.limit = true
              · simp [limited, low, Dict.get?_set, same]
              · simp [limited, low]
            · simp [limited]

/-- Nothing fails when the required quotas are all there. -/
theorem limitsIncrease_ok {required : List (String × Int)} (limits : Limits)
    (known : ∀ name ∈ required.map Prod.fst, name ∈ quotaSet.keys) :
    ∃ after, limitsIncrease tooLow extraIncrease quotaSet required limits = .ok after := by
  induction required generalizing limits with
  | nil => exact ⟨limits, rfl⟩
  | cons head required inductionHypothesis =>
      obtain ⟨name, needed⟩ := head
      have present := Dict.isSome_get?.mpr (known name List.mem_cons_self)
      obtain ⟨quota, found⟩ := Option.isSome_iff_exists.mp present
      rw [limitsIncrease, found]
      exact inductionHypothesis _ fun other member => known other (List.mem_cons_of_mem _ member)

theorem lowQuota_get? (required : RequiredQuotas) (name : String) {quota : Quota}
    {needed : Int} :
    lowQuota tooLow quotaSet required.entries name = some (quota, needed) ↔
      required.get? name = some needed ∧ quotaSet.get? name = some quota ∧ 0 ≤ quota.limit ∧
        tooLow (quota.requiredLimit needed) quota.limit = true :=
  lowQuota_eq_some

/-- The limits that are asked for. -/
theorem get?_expected {required : RequiredQuotas} {after : Limits}
    (passed : limitsIncrease tooLow extraIncrease quotaSet required.entries .none = .ok after)
    {name : String} {limit : Int} :
    after.expected.get? name = some limit ↔ ∃ needed quota,
      required.get? name = some needed ∧ quotaSet.get? name = some quota ∧ 0 ≤ quota.limit ∧
        tooLow (quota.requiredLimit needed) quota.limit = true ∧
        quota.requiredLimit needed + extraIncrease = limit := by
  have read := (limitsIncrease_spec required.distinct passed name).2
  rw [read, show Limits.none.expected.get? name = none from rfl, Option.or_none,
    Option.map_eq_some_iff]
  constructor
  · rintro ⟨⟨quota, needed⟩, low, limit_eq⟩
    obtain ⟨needed_eq, quota_eq, limited, isLow⟩ := (lowQuota_get? required name).mp low
    exact ⟨needed, quota, needed_eq, quota_eq, limited, isLow, limit_eq⟩
  · rintro ⟨needed, quota, needed_eq, quota_eq, limited, isLow, limit_eq⟩
    exact ⟨(quota, needed),
      (lowQuota_get? required name).mpr ⟨needed_eq, quota_eq, limited, isLow⟩, limit_eq⟩

end Low

/-! ### Which limits ought to be asked for -/

/-- The needed amount does not fit in; a negative limit is none. -/
def Quota.Insufficient (quota : Quota) (needed : Int) : Prop :=
  0 ≤ quota.limit ∧ quota.limit < quota.requiredLimit needed

/-- The needed amount fits in, and nothing is left. -/
def Quota.ExactlyEnough (quota : Quota) (needed : Int) : Prop :=
  0 ≤ quota.limit ∧ quota.limit = quota.requiredLimit needed

/-- The quota with the name is one of the required ones, with its figures. -/
def Requires (required : RequiredQuotas) (quotaSet : QuotaSet) (name : String) (needed : Int)
    (quota : Quota) : Prop :=
  required.get? name = some needed ∧ quotaSet.get? name = some quota

/-- The limits are those of exactly the insufficient quotas, and they are sufficient. -/
structure RightLimits (required : RequiredQuotas) (quotaSet : QuotaSet)
    (limits : Dict String Int) : Prop where
  exactly : ∀ name, name ∈ limits.keys ↔
    ∃ needed quota, Requires required quotaSet name needed quota ∧ quota.Insufficient needed
  enough : ∀ name limit needed quota, limits.get? name = some limit →
    Requires required quotaSet name needed quota →
    quota.requiredLimit needed ≤ limit ∧ quota.limit < limit

/-- None of the required quotas has a limit that is just enough. -/
def NoneExactlyEnough (required : RequiredQuotas) (quotaSet : QuotaSet) : Prop :=
  ∀ name needed quota, Requires required quotaSet name needed quota →
    ¬quota.ExactlyEnough needed

section Right

variable {required : RequiredQuotas} {quotaSet : QuotaSet} {extraIncrease : Int}
  {after : Limits}

theorem mem_keys_expected {tooLow : Int → Int → Bool}
    (passed : limitsIncrease tooLow extraIncrease quotaSet required.entries .none = .ok after)
    {name : String} :
    name ∈ after.expected.keys ↔ ∃ needed quota, Requires required quotaSet name needed quota ∧
      0 ≤ quota.limit ∧ tooLow (quota.requiredLimit needed) quota.limit = true := by
  rw [← Dict.isSome_get?, Option.isSome_iff_exists]
  constructor
  · rintro ⟨limit, found⟩
    obtain ⟨needed, quota, needed_eq, quota_eq, limited, low, -⟩ := (get?_expected passed).mp found
    exact ⟨needed, quota, ⟨needed_eq, quota_eq⟩, limited, low⟩
  · rintro ⟨needed, quota, ⟨needed_eq, quota_eq⟩, limited, low⟩
    exact ⟨_, (get?_expected passed).mpr ⟨needed, quota, needed_eq, quota_eq, limited, low, rfl⟩⟩

/-- The quota after an update, of this limit if it is part of it. -/
def Quota.updated (quota : Quota) : Option Int → Quota
  | some limit => { quota with limit := limit }
  | none => quota

/-- The quota set after an update of the given limits. -/
def Updated (limits : Dict String Int) (quotaSet later : QuotaSet) : Prop :=
  ∀ name, later.get? name = (quotaSet.get? name).map fun quota =>
    quota.updated (limits.get? name)

/-- After the update of the limits that were asked for, no more is asked for. -/
theorem expected_nil_of_updated {tooLow : Int → Int → Bool} {later : QuotaSet} {more : Int}
    {again : Limits} (generous : ∀ requiredLimit,
      tooLow requiredLimit (requiredLimit + extraIncrease) = false)
    (passed : limitsIncrease tooLow extraIncrease quotaSet required.entries .none = .ok after)
    (updated : Updated after.expected quotaSet later)
    (passedAgain : limitsIncrease tooLow more later required.entries .none = .ok again) :
    again.expected.entries = [] := by
  have nothing : again.expected.keys = [] := by
    rw [List.eq_nil_iff_forall_not_mem]
    intro name asked
    obtain ⟨needed, quota, ⟨needed_eq, quota_eq⟩, limited, low⟩ :=
      (mem_keys_expected passedAgain).mp asked
    rw [updated name] at quota_eq
    obtain ⟨old, old_eq, rfl⟩ := Option.map_eq_some_iff.mp quota_eq
    cases found : after.expected.get? name with
    | some limit =>
        obtain ⟨otherNeeded, other, other_needed, other_eq, -, -, rfl⟩ :=
          (get?_expected passed).mp found
        have sameNeeded := Option.some.inj (needed_eq.symm.trans other_needed)
        have sameQuota := Option.some.inj (old_eq.symm.trans other_eq)
        subst sameNeeded
        subst sameQuota
        rw [found] at low
        have enough : tooLow (old.requiredLimit needed)
            (old.requiredLimit needed + extraIncrease) = true := low
        rw [generous] at enough
        cases enough
    | none =>
        rw [found] at limited low
        have before := (mem_keys_expected passed).mpr
          ⟨needed, old, ⟨needed_eq, old_eq⟩, limited, low⟩
        rw [← Dict.isSome_get?, found] at before
        cases before
  exact List.map_eq_nil_iff.mp nothing

/-- The limits are right where the comparison tells the insufficient quotas. -/
theorem rightLimits_of_tells {tooLow : Int → Int → Bool} (more : 0 ≤ extraIncrease)
    (tells : ∀ name needed quota, Requires required quotaSet name needed quota →
      0 ≤ quota.limit → (tooLow (quota.requiredLimit needed) quota.limit = true ↔
        quota.limit < quota.requiredLimit needed))
    (passed : limitsIncrease tooLow extraIncrease quotaSet required.entries .none = .ok after) :
    RightLimits required quotaSet after.expected where
  exactly := by
    intro name
    rw [mem_keys_expected passed]
    constructor
    · rintro ⟨needed, quota, requires, limited, low⟩
      exact ⟨needed, quota, requires, limited, (tells name needed quota requires limited).mp low⟩
    · rintro ⟨needed, quota, requires, limited, low⟩
      exact ⟨needed, quota, requires, limited, (tells name needed quota requires limited).mpr low⟩
  enough := by
    rintro name limit needed quota found ⟨needed_eq, quota_eq⟩
    obtain ⟨otherNeeded, other, other_needed, other_eq, limited, low, rfl⟩ :=
      (get?_expected passed).mp found
    have sameNeeded := Option.some.inj (needed_eq.symm.trans other_needed)
    have sameQuota := Option.some.inj (quota_eq.symm.trans other_eq)
    subst sameNeeded
    subst sameQuota
    have below := (tells name needed quota ⟨needed_eq, quota_eq⟩ limited).mp low
    exact ⟨by omega, by omega⟩

theorem neutron_rightLimits (more : 0 ≤ extraIncrease)
    (passed : getNeutronQuotaLimitsIncrease quotaSet extraIncrease required = .ok after) :
    RightLimits required quotaSet after.expected :=
  rightLimits_of_tells more (fun _ _ _ _ _ => decide_eq_true_iff) passed

theorem le_iff_lt_of_apart {quota : Quota} {needed : Int} (apart : ¬quota.ExactlyEnough needed)
    (limited : 0 ≤ quota.limit) :
    quota.limit ≤ quota.requiredLimit needed ↔ quota.limit < quota.requiredLimit needed := by
  constructor
  · intro low
    apply lt_of_le_of_ne low
    exact fun same => apart ⟨limited, same⟩
  · exact Int.le_of_lt

/-- Nova is right except where a limit is just enough. -/
theorem nova_rightLimits_iff (more : 0 ≤ extraIncrease)
    (passed : getNovaQuotaLimitsIncrease quotaSet extraIncrease required = .ok after) :
    RightLimits required quotaSet after.expected ↔ NoneExactlyEnough required quotaSet := by
  constructor
  · rintro right name needed quota requires ⟨limited, exact_⟩
    have asked : name ∈ after.expected.keys := (mem_keys_expected passed).mpr
      ⟨needed, quota, requires, limited, decide_eq_true (Int.le_of_eq exact_)⟩
    obtain ⟨otherNeeded, other, otherRequires, -, below⟩ := (right.exactly name).mp asked
    have sameNeeded := Option.some.inj (requires.1.symm.trans otherRequires.1)
    have sameQuota := Option.some.inj (requires.2.symm.trans otherRequires.2)
    subst sameNeeded
    subst sameQuota
    omega
  · intro noneExact
    apply rightLimits_of_tells more _ passed
    intro name needed quota requires limited
    rw [novaTooLow, decide_eq_true_iff]
    exact le_iff_lt_of_apart (noneExact name needed quota requires) limited

/-- The increase depends on the comparison for the figures of the required quotas alone. -/
theorem limitsIncrease_congr {left right : Int → Int → Bool} {entries : List (String × Int)}
    (agree : ∀ name needed quota, (name, needed) ∈ entries → quotaSet.get? name = some quota →
      0 ≤ quota.limit →
        left (quota.requiredLimit needed) quota.limit =
          right (quota.requiredLimit needed) quota.limit) (limits : Limits) :
    limitsIncrease left extraIncrease quotaSet entries limits =
      limitsIncrease right extraIncrease quotaSet entries limits := by
  induction entries generalizing limits with
  | nil => rfl
  | cons head entries inductionHypothesis =>
      obtain ⟨name, needed⟩ := head
      rw [limitsIncrease, limitsIncrease]
      cases found : quotaSet.get? name with
      | none => rfl
      | some quota =>
          have added : limits.add left extraIncrease name quota needed =
              limits.add right extraIncrease name quota needed := by
            unfold Limits.add
            by_cases limited : 0 ≤ quota.limit
            · rw [if_pos limited, if_pos limited]
              dsimp only
              rw [agree name needed quota List.mem_cons_self found limited]
            · rw [if_neg limited, if_neg limited]
          dsimp only
          rw [added]
          apply inductionHypothesis
          exact fun other needed quota member => agree other needed quota
            (List.mem_cons_of_mem _ member)

/-- The two services agree on figures of which none is just enough. -/
theorem nova_eq_neutron (noneExact : NoneExactlyEnough required quotaSet) :
    getNovaQuotaLimitsIncrease quotaSet extraIncrease required =
      getNeutronQuotaLimitsIncrease quotaSet extraIncrease required := by
  apply limitsIncrease_congr
  intro name needed quota member found limited
  have apart := noneExact name needed quota ⟨Dict.mem_entries_iff.mp member, found⟩
  rw [novaTooLow, neutronTooLow, decide_eq_decide]
  exact le_iff_lt_of_apart apart limited

end Right

end Tobiko.Openstack.Quotas
