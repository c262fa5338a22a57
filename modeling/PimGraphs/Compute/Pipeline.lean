import Mathlib.Algebra.BigOperators.Ring.Finset
import Mathlib.Order.Interval.Finset.Fin
import PimGraphs.Compute.Systolic

/-!
# The array as a pipeline

Clocked with streams of left activations and top psums, every element of the
array sees the activations of its row delayed by its column, and accumulates
the products of the rows above it on the delayed psum of its column.  Read off
the bottom row, column `c` is a sum over the rows in which the activation of
row `r` is delayed by `16 - r + c` ticks; the skew of the feeder makes up for
the difference between the rows.
-/

namespace PimGraphs

open Delay

namespace SystolicArray

variable {F : Type} [Semiring F]

/-- The matrix of the stationary weights. -/
def weights (array : SystolicArray F) : Matrix (Fin 16) (Fin 16) F :=
  fun row column => (array.pes row column).weight

/-- Every input latch holds zero. -/
def Cleared (array : SystolicArray F) : Prop :=
  ∀ row column,
    (array.pes row column).actIn = 0 ∧ (array.pes row column).psumIn = 0

/-- The array before a tick, when fed streams of left activations and top
psums. -/
def fed (array : SystolicArray F) (left top : Nat → Vec16 F) :
    Nat → SystolicArray F
  | 0 => array
  | tick + 1 => ((array.fed left top tick).tick (left tick) (top tick)).2

/-- The outputs of the bottom row during a tick. -/
def fedOutput
    (array : SystolicArray F)
    (left top : Nat → Vec16 F)
    (tick : Nat) : Vec16 F :=
  ((array.fed left top tick).tick (left tick) (top tick)).1

/-- The array before a tick, when clocked with a stream of left activations
and zero top psums. -/
def clocked (array : SystolicArray F) (left : Nat → Vec16 F) :
    Nat → SystolicArray F
  | 0 => array
  | tick + 1 => ((array.clocked left tick).tick (left tick) 0).2

/-- The outputs of the bottom row during a tick. -/
def clockedOutput
    (array : SystolicArray F)
    (left : Nat → Vec16 F)
    (tick : Nat) : Vec16 F :=
  ((array.clocked left tick).tick (left tick) 0).1

@[simp] theorem weights_loadWeights
    (array : SystolicArray F)
    (weightMatrix : Weights F) :
    (array.loadWeights weightMatrix).weights = weightMatrix.toMatrix := rfl

theorem cleared_loadWeights
    (array : SystolicArray F)
    (weightMatrix : Weights F) :
    (array.loadWeights weightMatrix).Cleared :=
  fun _ _ => ⟨rfl, rfl⟩

@[simp] theorem weights_tick
    (array : SystolicArray F)
    (left top : Vec16 F) :
    (array.tick left top).2.weights = array.weights := rfl

@[simp] theorem weights_fed
    (array : SystolicArray F)
    (left top : Nat → Vec16 F)
    (tick : Nat) :
    (array.fed left top tick).weights = array.weights := by
  induction tick with
  | zero => rfl
  | succ tick sameWeights =>
      rw [fed, weights_tick, sameWeights]

/-- Clocking is feeding zero psums. -/
theorem clocked_eq_fed
    (array : SystolicArray F)
    (left : Nat → Vec16 F)
    (tick : Nat) :
    array.clocked left tick = array.fed left 0 tick := by
  induction tick with
  | zero => rfl
  | succ tick same =>
      rw [clocked, fed, same, Pi.zero_apply]

theorem clockedOutput_eq_fedOutput
    (array : SystolicArray F)
    (left : Nat → Vec16 F)
    (tick : Nat) :
    array.clockedOutput left tick = array.fedOutput left 0 tick := by
  rw [clockedOutput, fedOutput, clocked_eq_fed, Pi.zero_apply]

section Step

variable (array : SystolicArray F) (left top : Vec16 F)

@[simp] theorem actIn_tick_zero (row : Fin 16) :
    ((array.tick left top).2.pes row 0).actIn = left row := rfl

@[simp] theorem actIn_tick_succ (row : Fin 16) (before : Fin 15) :
    ((array.tick left top).2.pes row before.succ).actIn =
      (array.pes row before.castSucc).actIn := rfl

@[simp] theorem psumIn_tick_zero (column : Fin 16) :
    ((array.tick left top).2.pes 0 column).psumIn = top column := rfl

@[simp] theorem psumIn_tick_succ (above : Fin 15) (column : Fin 16) :
    ((array.tick left top).2.pes above.succ column).psumIn =
      (array.pes above.castSucc column).psumIn +
        (array.pes above.castSucc column).actIn *
          array.weights above.castSucc column := rfl

/-- Without inputs a cleared array stays cleared. -/
theorem Cleared.tick
    {array : SystolicArray F}
    (cleared : array.Cleared) :
    (array.tick 0 0).2.Cleared := by
  intro row column
  constructor
  · induction column using Fin.cases with
    | zero => exact actIn_tick_zero array 0 0 row
    | succ before => exact (cleared row before.castSucc).1
  · induction row using Fin.cases with
    | zero => exact psumIn_tick_zero array 0 0 column
    | succ above =>
        rw [psumIn_tick_succ, (cleared above.castSucc column).1,
          (cleared above.castSucc column).2, zero_mul, add_zero]

theorem output_tick (column : Fin 16) :
    (array.tick left top).1 column =
      (array.pes (Fin.last 15) column).psumIn +
        (array.pes (Fin.last 15) column).actIn *
          array.weights (Fin.last 15) column := rfl

end Step

section Stream

variable {array : SystolicArray F}

/-- An element sees the activations of its row delayed by one tick for each
element they pass. -/
theorem actIn_fed
    (cleared : array.Cleared)
    (left top : Nat → Vec16 F)
    (tick : Nat)
    (row column : Fin 16) :
    ((array.fed left top tick).pes row column).actIn =
      delayed (column.val + 1) (fun tick => left tick row) tick := by
  induction tick generalizing column with
  | zero =>
      rw [delayed_succ_at_zero]
      exact (cleared row column).1
  | succ tick earlier =>
      rw [fed, delayed_succ_succ]
      induction column using Fin.cases with
      | zero =>
          rw [actIn_tick_zero, Fin.val_zero, delayed_zero]
      | succ before =>
          rw [actIn_tick_succ, earlier, Fin.val_castSucc, Fin.val_succ]

/-- The rows above an element's successor. -/
theorem iio_succ (above : Fin 15) :
    Finset.Iio above.succ =
      insert above.castSucc (Finset.Iio above.castSucc) := by
  ext row
  simp only [Finset.mem_Iio, Finset.mem_insert, Fin.lt_def, Fin.ext_iff,
    Fin.val_succ, Fin.val_castSucc]
  omega

/-- An element's partial sum collects the products of the rows above it on the
psum that entered its column. -/
theorem psumIn_fed
    (cleared : array.Cleared)
    (left top : Nat → Vec16 F)
    (tick : Nat)
    (row column : Fin 16) :
    ((array.fed left top tick).pes row column).psumIn =
      delayed (row.val + 1) (fun tick => top tick column) tick +
        ∑ above ∈ Finset.Iio row,
          delayed (row.val - above.val + column.val + 1)
              (fun tick => left tick above) tick *
            array.weights above column := by
  induction tick generalizing row with
  | zero =>
      simp only [delayed_succ_at_zero, zero_mul, Finset.sum_const_zero,
        add_zero]
      exact (cleared row column).2
  | succ tick earlier =>
      rw [fed]
      simp only [delayed_succ_succ]
      induction row using Fin.cases with
      | zero =>
          have noRows : Finset.Iio (0 : Fin 16) = ∅ := by decide
          rw [psumIn_tick_zero, noRows, Finset.sum_empty, add_zero,
            Fin.val_zero, delayed_zero]
      | succ above =>
          have outside : above.castSucc ∉ Finset.Iio above.castSucc := by
            simp
          rw [psumIn_tick_succ, earlier, actIn_fed cleared, weights_fed,
            iio_succ, Finset.sum_insert outside, Fin.val_succ,
            Fin.val_castSucc, add_assoc]
          congr 1
          rw [add_comm]
          congr 1
          · rw [Nat.add_sub_cancel_left, Nat.add_comm 1]
          · refine Finset.sum_congr rfl fun higher isAbove => ?_
            have lower : higher.val < above.val :=
              Fin.lt_def.mp (Finset.mem_Iio.mp isAbove)
            congr 2
            omega

/-- A bottom-row output collects the products of all rows on the psum that
entered its column sixteen ticks earlier. -/
theorem fedOutput_eq
    (cleared : array.Cleared)
    (left top : Nat → Vec16 F)
    (tick : Nat)
    (column : Fin 16) :
    array.fedOutput left top tick column =
      delayed 16 (fun tick => top tick column) tick +
        ∑ row : Fin 16,
          delayed (16 - row.val + column.val) (fun tick => left tick row)
              tick *
            array.weights row column := by
  have allRows : (Finset.univ : Finset (Fin 16)) =
      insert (Fin.last 15) (Finset.Iio (Fin.last 15)) := by
    ext row
    simp only [Finset.mem_univ, Finset.mem_insert, Finset.mem_Iio,
      Fin.lt_def, Fin.ext_iff, Fin.val_last, true_iff]
    omega
  have outside : Fin.last 15 ∉ Finset.Iio (Fin.last 15) := by simp
  rw [fedOutput, output_tick, psumIn_fed cleared, actIn_fed cleared,
    weights_fed, allRows, Finset.sum_insert outside, Fin.val_last, add_assoc]
  congr 1
  rw [add_comm]
  congr 1
  · rw [Nat.add_comm column.val]
  · refine Finset.sum_congr rfl fun row isAbove => ?_
    have lower : row.val < 15 :=
      Fin.lt_def.mp (Finset.mem_Iio.mp isAbove)
    congr 2
    omega

/-- What an array puts out just after its weights are loaded, whatever it has
done before: inputs before the first tick count as zero. -/
theorem fedOutput_loadWeights
    (array : SystolicArray F)
    (weightMatrix : Weights F)
    (left top : Nat → Vec16 F)
    (tick : Nat)
    (column : Fin 16) :
    (array.loadWeights weightMatrix).fedOutput left top tick column =
      atTime (fun tick => top tick column) (tick - 16) +
        ∑ row : Fin 16,
          atTime (fun tick => left tick row)
              ((tick : Int) - 16 - column.val + row.val) *
            weightMatrix (Weights.index row column) := by
  rw [fedOutput_eq (cleared_loadWeights array weightMatrix),
    weights_loadWeights, delayed_eq_atTime]
  congr 1
  apply Finset.sum_congr rfl
  intro row _
  have time : (tick : Int) - (16 - row.val + column.val : Nat) =
      (tick : Int) - 16 - column.val + row.val := by
    omega
  rw [delayed_eq_atTime, time, Weights.toMatrix_apply]

/-- Without psums from the top only the products are left. -/
theorem clockedOutput_eq
    (cleared : array.Cleared)
    (left : Nat → Vec16 F)
    (tick : Nat)
    (column : Fin 16) :
    array.clockedOutput left tick column =
      ∑ row : Fin 16,
        delayed (16 - row.val + column.val) (fun tick => left tick row) tick *
          array.weights row column := by
  have noPsums : delayed 16 (fun tick => (0 : Nat → Vec16 F) tick column) tick
      = 0 := by
    simp [delayed]
  rw [clockedOutput_eq_fedOutput, fedOutput_eq cleared, noPsums, zero_add]

/-- Activations skewed by one tick for each row leave column `c` multiplied by
the weights, all together, `16 + c` ticks after they entered. -/
theorem clockedOutput_of_skewed
    (cleared : array.Cleared)
    {left operands : Nat → Vec16 F}
    (skewed : ∀ row,
      (fun tick => left tick row) =
        delayed row.val fun tick => operands tick row)
    (tick : Nat)
    (column : Fin 16) :
    array.clockedOutput left tick column =
      delayed (16 + column.val)
        (fun tick => ∑ row, operands tick row * array.weights row column)
        tick := by
  have aligned (row : Fin 16) :
      delayed (16 - row.val + column.val) (fun tick => left tick row) tick =
        delayed (16 + column.val) (fun tick => operands tick row) tick := by
    rw [skewed, delayed_delayed]
    congr 1
    omega
  rw [clockedOutput_eq cleared]
  simp only [aligned]
  rcases Nat.lt_or_ge tick (16 + column.val) with early | late
  · simp only [delayed_of_lt _ early, zero_mul, Finset.sum_const_zero]
  · simp only [delayed_of_le _ late]

end Stream

end SystolicArray

end PimGraphs
