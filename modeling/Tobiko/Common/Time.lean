import Mathlib.Algebra.Order.Field.Rat
import Mathlib.Algebra.Order.Ring.NNRat
import Mathlib.Data.NNRat.Order
import Mathlib.Tactic.Linarith
import Mathlib.Tactic.Ring

/-!
Contract: seconds and the clock of `tobiko/common/_time.py`.

Owns: normalized seconds, the conversion that normalizes them, and the two
operations on the clock with what the code relies on about them. Seconds are
exact rational numbers.

Does not own: the conversion of a text to a number.
-/

namespace Tobiko.Common.Time

/-- Normalized seconds are not negative. -/
abbrev Seconds := Option ℚ≥0

/-- `value and max(0., float(value)) or 0.` of a number -/
def toSecondsFloat (value : ℚ) : ℚ≥0 :=
  if value = 0 then 0 else value.toNNRat

def toSeconds (value : Option ℚ) : Seconds := value.map toSecondsFloat

theorem coe_toSecondsFloat (value : ℚ) : (toSecondsFloat value : ℚ) = max value 0 := by
  unfold toSecondsFloat
  split
  · rename_i zero
    simp [zero]
  · rfl

@[simp] theorem toSecondsFloat_coe (value : ℚ≥0) : toSecondsFloat (value : ℚ) = value := by
  apply NNRat.coe_injective
  rw [coe_toSecondsFloat]
  exact max_eq_left value.coe_nonneg

/-- Seconds that are normalized stay as they are. -/
@[simp] theorem toSeconds_coe (value : Seconds) : toSeconds (value.map (↑)) = value := by
  cases value with
  | none => rfl
  | some value => simp [toSeconds]

/-- The clock, as part of a state that it shares with everything else that
happens. Reading the clock tells a moment between the call and the return, and a
sleep takes at least the requested time. -/
structure Clock (World : Type) where
  now : World → ℚ
  time : World → ℚ × World
  sleep : ℚ≥0 → World → World
  time_after : ∀ world, now world ≤ (time world).1
  time_before : ∀ world, (time world).1 ≤ now (time world).2
  sleep_after : ∀ seconds world, now world + seconds ≤ now (sleep seconds world)

/-- The clock that is read in no time and sleeps exactly as long as it is asked to. -/
def Clock.ideal : Clock ℚ where
  now := id
  time := fun now => (now, now)
  sleep := fun seconds now => now + seconds
  time_after := fun _ => le_rfl
  time_before := fun _ => le_rfl
  sleep_after := fun _ _ => le_rfl

/-- Something that happens and takes its time. -/
structure Clock.Action {World : Type} (clock : Clock World) where
  run : World → World
  later : ∀ world, clock.now world ≤ clock.now (run world)

/-- An action that takes the given time on the ideal clock. -/
def Clock.lasting (duration : ℚ≥0) : Clock.ideal.Action where
  run := fun now => now + duration
  later := fun _ => le_add_of_nonneg_right duration.coe_nonneg

/-- The clock of a world that is part of a state. -/
def Clock.paired {World : Type} (clock : Clock World) (Rest : Type) : Clock (World × Rest) where
  now state := clock.now state.1
  time state := ((clock.time state.1).1, ((clock.time state.1).2, state.2))
  sleep seconds state := (clock.sleep seconds state.1, state.2)
  time_after state := clock.time_after state.1
  time_before state := clock.time_before state.1
  sleep_after seconds state := clock.sleep_after seconds state.1

end Tobiko.Common.Time
