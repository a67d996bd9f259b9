import Mathlib.Data.Rat.Floor

/-!
Contract: the numeric parameters of a ping.

Owns: the conversion and the check of each number, and the parameters that are made from others.

Does not own: the parameters that are not numbers, which the rounds of a ping hand on unchanged.
-/

namespace Tobiko.Shell.Ping

/-- `ValueError`, with the name of the parameter and its value. -/
inductive ParameterError where
  | negativeInteger (name : String) (value : ℤ)
  | negativeFloat (name : String) (value : ℚ)
  deriving DecidableEq

/-- `int(value)`, towards zero. -/
def toInt (value : ℚ) : ℤ := if 0 ≤ value then ⌊value⌋ else ⌈value⌉

/-- A number that is not given is that of the default, which went through the same converter and
check before. -/
def getPositiveNumber {Number : Type} [Zero Number] [LinearOrder Number]
    (negative : String → Number → ParameterError) (name : String) (value : Option ℚ)
    (converter : ℚ → Number) (default : { number : Number // 0 ≤ number }) :
    Except ParameterError { number : Number // 0 ≤ number } :=
  match value with
  | none => .ok default
  | some value =>
      if isNegative : converter value < 0 then .error (negative name (converter value))
      else .ok ⟨converter value, not_lt.mp isNegative⟩

/-- Validated parameters. -/
structure PingParameters where
  count : { number : ℤ // 0 ≤ number }
  deadline : { number : ℤ // 0 ≤ number }
  interval : { number : ℚ // 0 ≤ number }
  timeout : { number : ℤ // 0 ≤ number }
  deriving DecidableEq

/-- `get_ping_parameters`, with the numbers that are given beside the default. -/
def getPingParameters (default : PingParameters) (count deadline interval timeout : Option ℚ) :
    Except ParameterError PingParameters := do
  let count ← getPositiveNumber .negativeInteger "count" count toInt default.count
  let deadline ← getPositiveNumber .negativeInteger "deadline" deadline toInt default.deadline
  let interval ← getPositiveNumber .negativeFloat "interval" interval id default.interval
  let timeout ← getPositiveNumber .negativeInteger "timeout" timeout toInt default.timeout
  return { count, deadline, interval, timeout }

theorem toInt_nonneg {value : ℚ} (nonneg : 0 ≤ value) : 0 ≤ toInt value := by
  rw [toInt, if_pos nonneg]
  exact Int.floor_nonneg.mpr nonneg

theorem toInt_intCast (value : ℤ) : toInt value = value := by
  unfold toInt
  split
  · exact Int.floor_intCast value
  · exact Int.ceil_intCast value

/-- The numbers of a round are accepted where none of them is negative. -/
theorem getPingParameters_round (default : PingParameters) {count deadline timeout : ℚ}
    (countNonneg : 0 ≤ count) (deadlineNonneg : 0 ≤ deadline) (timeoutNonneg : 0 ≤ timeout) :
    getPingParameters default (some count) (some deadline) none (some timeout) =
      .ok ⟨⟨toInt count, toInt_nonneg countNonneg⟩, ⟨toInt deadline, toInt_nonneg deadlineNonneg⟩,
        default.interval, ⟨toInt timeout, toInt_nonneg timeoutNonneg⟩⟩ := by
  have given : ∀ (name : String) {value : ℚ} (nonneg : 0 ≤ value)
      (other : { number : ℤ // 0 ≤ number }),
      getPositiveNumber .negativeInteger name (some value) toInt other =
        .ok ⟨toInt value, toInt_nonneg nonneg⟩ := by
    intro name value nonneg other
    exact dif_neg (not_lt.mpr (toInt_nonneg nonneg))
  unfold getPingParameters
  rw [given _ countNonneg, given _ deadlineNonneg, given _ timeoutNonneg]
  rfl

end Tobiko.Shell.Ping
