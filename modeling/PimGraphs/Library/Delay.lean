import Mathlib.Algebra.BigOperators.Group.Finset.Basic

/-!
# Delayed signals

A signal is a value for every clock tick.  Delaying it by a number of stages
shifts it in time and reads zero before its first value arrives, as a chain of
cleared registers does.
-/

namespace Delay

variable {α : Type*} [Zero α]

/-- The signal as it leaves a chain of initially cleared registers. -/
def delayed (stages : Nat) (signal : Nat → α) : Nat → α :=
  fun tick => if stages ≤ tick then signal (tick - stages) else 0

@[simp] theorem delayed_zero (signal : Nat → α) :
    delayed 0 signal = signal := by
  funext tick
  simp [delayed]

/-- Nothing has arrived before the delay has passed. -/
theorem delayed_of_lt
    {stages tick : Nat}
    (signal : Nat → α)
    (early : tick < stages) :
    delayed stages signal tick = 0 := by
  simp [delayed, Nat.not_le.mpr early]

theorem delayed_of_le
    {stages tick : Nat}
    (signal : Nat → α)
    (late : stages ≤ tick) :
    delayed stages signal tick = signal (tick - stages) := by
  simp [delayed, late]

/-- A value leaves the chain after exactly the delay. -/
@[simp] theorem delayed_add
    (stages tick : Nat)
    (signal : Nat → α) :
    delayed stages signal (tick + stages) = signal tick := by
  simp [delayed]

@[simp] theorem delayed_succ_at_zero
    (stages : Nat)
    (signal : Nat → α) :
    delayed (stages + 1) signal 0 = 0 := by
  simp [delayed]

/-- One more register costs one more tick. -/
@[simp] theorem delayed_succ_succ
    (stages tick : Nat)
    (signal : Nat → α) :
    delayed (stages + 1) signal (tick + 1) = delayed stages signal tick := by
  simp [delayed]

/-- Delays in series add up. -/
theorem delayed_delayed
    (outer inner : Nat)
    (signal : Nat → α) :
    delayed outer (delayed inner signal) = delayed (outer + inner) signal := by
  funext tick
  rcases Nat.lt_or_ge tick outer with early | late
  · rw [delayed_of_lt _ early, delayed_of_lt _ (by omega)]
  · obtain ⟨rest, rfl⟩ := Nat.exists_eq_add_of_le' late
    rw [delayed_add]
    rcases Nat.lt_or_ge rest inner with tooEarly | arrived
    · rw [delayed_of_lt _ tooEarly, delayed_of_lt _ (by omega)]
    · rw [delayed_of_le _ arrived, delayed_of_le _ (by omega)]
      congr 1
      omega

/-- The value of a signal at a time that may lie before its first tick. -/
def atTime (signal : Nat → α) : Int → α
  | .ofNat tick => signal tick
  | .negSucc _ => 0

/-- A delayed signal is the signal at an earlier time. -/
theorem delayed_eq_atTime
    (stages : Nat)
    (signal : Nat → α)
    (tick : Nat) :
    delayed stages signal tick = atTime signal (tick - stages) := by
  rcases Nat.lt_or_ge tick stages with early | late
  · obtain ⟨missing, isMissing⟩ := Nat.exists_eq_add_of_lt early
    have negative : (tick : Int) - stages = .negSucc missing := by omega
    rw [delayed_of_lt _ early, negative]
    rfl
  · have reached : (tick : Int) - stages = .ofNat (tick - stages) :=
      (Int.ofNat_sub late).symm
    rw [delayed_of_le _ late, reached]
    rfl

end Delay
