import Tobiko.Shell.Ping.Rounds

/-!
Contract: the packets that a round of ping asks for.

Owns: the number of packets of a round, and exactly when it is positive and these packets fit in the
deadline of the round.

Does not own: what the ping command does with them.
-/

namespace Tobiko.Shell.Ping

variable {Output Address Error : Type} {parse : OutputParser Output Address}
  {parameters : PingParameters} {untilType : Option MessageType} {now : ℚ}
  {rounds : List (Round Output Error)} {yielded : List (PingStatistics Address)}
  {state : RoundState}

/-- The messages that are still needed. -/
def missing (parameters : PingParameters) (state : RoundState) : ℤ :=
  parameters.count.1 - state.count

/-- The packets are at least one, no more than needed, and fit in the deadline when one of them is
sent in each interval. -/
structure WithinBudget (parameters requested : PingParameters) (state : RoundState) : Prop where
  positive : 1 ≤ requested.count.1
  needed : requested.count.1 ≤ missing parameters state
  fits : ((requested.count.1 : ℚ) - 1) * parameters.interval.1 ≤ requested.deadline.1

/-- The packets that are needed, or as many as there are seconds in the deadline times the
interval: the number is multiplied where it should be divided. -/
theorem executeParameters_eq (notReceived : untilType ≠ some .received)
    (reached : Reached parse parameters untilType now rounds yielded state)
    (goesOn : continues parameters state = true) :
    ∃ requested, executeParameters parameters untilType (now + parameters.timeout.1) state =
        .ok requested ∧
      requested.count.1 =
        min (missing parameters state) ⌊parameters.interval.1 * state.deadline⌋ ∧
      requested.deadline.1 = state.deadline := by
  obtain ⟨positive, more⟩ := continues_eq_true goesOn
  have deadlineNonneg : (0 : ℚ) ≤ state.deadline := Int.cast_nonneg positive.le
  have missingNonneg : (0 : ℚ) ≤ (missing parameters state : ℤ) :=
    Int.cast_nonneg (Int.sub_nonneg.mpr more.le)
  have countNonneg : (0 : ℚ) ≤
      min ((missing parameters state : ℤ) : ℚ) (parameters.interval.1 * state.deadline) :=
    le_min missingNonneg (mul_nonneg parameters.interval.2 deadlineNonneg)
  have unfolded : executeParameters parameters untilType (now + parameters.timeout.1) state =
      getPingParameters parameters
        (some (min ((missing parameters state : ℤ) : ℚ) (parameters.interval.1 * state.deadline)))
        (some state.deadline) none (some (now + parameters.timeout.1 - state.now)) := by
    simp only [executeParameters, missing, if_neg notReceived]
  refine ⟨_, unfolded.trans (getPingParameters_round parameters countNonneg deadlineNonneg
    (reached.timeLeft_nonneg goesOn)), ?_, toInt_intCast _⟩
  show toInt (min ((missing parameters state : ℤ) : ℚ) _) = _
  rw [toInt, if_pos countNonneg, Int.floor_mono.map_min, Int.floor_intCast]

/-- **A round keeps to the budget exactly where the deadline times the interval is at least one and
the packets of the smaller number fit in the deadline**, after every history of rounds. -/
theorem withinBudget_iff (intervalPositive : 0 < parameters.interval.1)
    (notReceived : untilType ≠ some .received)
    (reached : Reached parse parameters untilType now rounds yielded state)
    (goesOn : continues parameters state = true) :
    ∃ requested, executeParameters parameters untilType (now + parameters.timeout.1) state =
        .ok requested ∧
      (WithinBudget parameters requested state ↔
        1 ≤ parameters.interval.1 * state.deadline ∧
          (((missing parameters state : ℚ) - 1) * parameters.interval.1 ≤ state.deadline ∨
            ((⌊parameters.interval.1 * state.deadline⌋ : ℚ) - 1) * parameters.interval.1 ≤
              state.deadline)) := by
  obtain ⟨requested, accepted, packets, deadline⟩ := executeParameters_eq notReceived reached goesOn
  obtain ⟨-, more⟩ := continues_eq_true goesOn
  have atLeastOne : 1 ≤ missing parameters state := by
    unfold missing
    omega
  have positive : 1 ≤ requested.count.1 ↔ 1 ≤ parameters.interval.1 * state.deadline := by
    rw [packets, le_min_iff, and_iff_right atLeastOne, Int.le_floor, Int.cast_one]
  have fits : ((requested.count.1 : ℚ) - 1) * parameters.interval.1 ≤ requested.deadline.1 ↔
      ((missing parameters state : ℚ) - 1) * parameters.interval.1 ≤ state.deadline ∨
        ((⌊parameters.interval.1 * state.deadline⌋ : ℚ) - 1) * parameters.interval.1 ≤
          state.deadline := by
    rw [packets, deadline, ← le_div_iff₀ intervalPositive, ← le_div_iff₀ intervalPositive,
      ← le_div_iff₀ intervalPositive, sub_le_iff_le_add, sub_le_iff_le_add, sub_le_iff_le_add,
      Int.cast_min, min_le_iff]
  refine ⟨requested, accepted, ?_⟩
  rw [← positive, ← fits]
  constructor
  · intro budget
    exact ⟨budget.positive, budget.fits⟩
  · rintro ⟨some, all⟩
    exact ⟨some, packets ▸ min_le_left _ _, all⟩

/-- Two packets in each second, for up to ten seconds. -/
def twoEverySecond : PingParameters :=
  ⟨⟨3, by decide⟩, ⟨10, by decide⟩, ⟨1 / 2, by norm_num⟩, ⟨60, by decide⟩⟩

theorem withinBudget_iff_twoEverySecond :
    ∃ requested, executeParameters twoEverySecond (some .transmitted) (0 + twoEverySecond.timeout.1)
        (initialState twoEverySecond 0) = .ok requested ∧
      (WithinBudget twoEverySecond requested (initialState twoEverySecond 0) ↔
        1 ≤ twoEverySecond.interval.1 * (initialState twoEverySecond 0).deadline ∧
          (((missing twoEverySecond (initialState twoEverySecond 0) : ℚ) - 1) * twoEverySecond.interval.1 ≤
              (initialState twoEverySecond 0).deadline ∨
            ((⌊twoEverySecond.interval.1 * (initialState twoEverySecond 0).deadline⌋ : ℚ) - 1) *
              twoEverySecond.interval.1 ≤ (initialState twoEverySecond 0).deadline)) :=
  withinBudget_iff (by norm_num [twoEverySecond]) (by decide)
    (Reached.start : Reached (fun (_ : Unit) _ _ => ({} : PingStatistics Unit)) twoEverySecond
      (some .transmitted) 0 ([] : List (Round Unit Unit)) [] _) (by decide)

/-- Ten packets in each second: the number of packets is cut to zero, and its option is left out. -/
def tenEverySecond : PingParameters :=
  ⟨⟨2, by decide⟩, ⟨8, by decide⟩, ⟨1 / 10, by norm_num⟩, ⟨60, by decide⟩⟩

theorem tenEverySecond_not_withinBudget :
    ¬∀ (parameters : PingParameters) (untilType : Option MessageType) (now : ℚ)
      (rounds : List (Round Unit Unit)) (yielded : List (PingStatistics Unit)) (state : RoundState),
      1 ≤ parameters.count.1 → 1 ≤ parameters.deadline.1 → 0 < parameters.interval.1 →
      untilType ≠ some .received →
      Reached (fun _ _ _ => {}) parameters untilType now rounds yielded state →
      continues parameters state = true →
      ∃ requested, executeParameters parameters untilType (now + parameters.timeout.1) state =
        .ok requested ∧ WithinBudget parameters requested state := by
  intro claimed
  have reached : Reached (fun (_ : Unit) _ _ => ({} : PingStatistics Unit)) tenEverySecond
      (some .transmitted) 0 ([] : List (Round Unit Unit)) [] (initialState tenEverySecond 0) :=
    Reached.start
  have goesOn : continues tenEverySecond (initialState tenEverySecond 0) = true := by decide
  obtain ⟨requested, accepted, budget⟩ := claimed _ _ _ _ _ _ (by decide) (by decide)
    (by norm_num [tenEverySecond]) (by decide) reached goesOn
  obtain ⟨same, again, packets, -⟩ := executeParameters_eq (by decide) reached goesOn
  rw [accepted] at again
  cases again
  have floor : ⌊tenEverySecond.interval.1 * (initialState tenEverySecond 0).deadline⌋ = 0 := by
    norm_num [tenEverySecond, initialState]
  rw [floor] at packets
  have positive := budget.positive
  omega

end Tobiko.Shell.Ping
