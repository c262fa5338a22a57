import Mathlib.Algebra.Ring.CharZero
import Mathlib.Logic.Function.Iterate
import Mathlib.Tactic.LinearCombination
import PimGraphs.Compute.Gru
import PimGraphs.Compute.Wavefront

/-!
# What a GRU evaluation computes

Each of the four gates takes thirty-four ticks: a load, a settling tick and
thirty-two ticks of the array, the last of which is read out.  At that tick
only the last column of the product drops out of the array, so a gate sees one
lane of the transposed product and zeros.  The evaluation agrees with the
reference GRU exactly on the lanes where this readout is the product.
-/

namespace PimGraphs

open Delay

/-- The operations with other activation functions. -/
def FloatOps.withActivations
    {F : Type}
    (ops : FloatOps F)
    (sigmoid tanh : F → F) : FloatOps F :=
  { ops with sigmoid, tanh }

namespace GRUCell

/-- The four matrix products of an evaluation, in order. -/
inductive Gate
  | reset
  | update
  | newH
  | newX

namespace Gate

/-- The phase that pushes a gate's operand. -/
def loading : Gate → GRUPhase
  | reset => .loadResetGate
  | update => .loadUpdateGate
  | newH => .loadNewGateH
  | newX => .loadNewGateX

/-- The phase that restarts the drain counter for a gate. -/
def settling : Gate → GRUPhase
  | reset => .settleResetGate
  | update => .settleUpdateGate
  | newH => .settleNewGateH
  | newX => .settleNewGateX

/-- The phase that clocks a gate's product out of the array. -/
def draining : Gate → GRUPhase
  | reset => .drainResetGate
  | update => .drainUpdateGate
  | newH => .drainNewGateH
  | newX => .drainNewGateX

/-- The phase after a gate. -/
def next : Gate → GRUPhase
  | reset => .loadUpdateGate
  | update => .loadNewGateH
  | newH => .loadNewGateX
  | newX => .applyElementwise

variable {F : Type}

/-- The weights a gate stores in the array. -/
def weightMatrix (gate : Gate) (cell : GRUCell F) : Weights F :=
  match gate with
  | reset => cell.wR
  | update => cell.wZ
  | newH => cell.wHn
  | newX => cell.wIn

/-- The vector a gate pushes. -/
def operand (gate : Gate) (cell : GRUCell F) : Vec16 F :=
  match gate with
  | reset => cell.hPrev
  | update => cell.hPrev
  | newH => cell.hPrev
  | newX => cell.msg

/-- What a gate does with its product. -/
def latch [Add F] [Mul F] (gate : Gate) (ops : FloatOps F) :
    GRUCell F → GRUCell F :=
  match gate with
  | reset => latchResetGate ops
  | update => latchUpdateGate ops
  | newH => latchResetGatedH
  | newX => latchNewGate ops

end Gate

variable {F : Type} [Field F] (ops : FloatOps F)

/-- Count a tick of a running evaluation. -/
def counted (cell : GRUCell F) : GRUCell F :=
  { cell with drainCount := cell.drainCount + 1 }

section Gates

variable (gate : Gate) (state : Borrowed F)
  (running : state.cell.isDone = false)
include running

theorem tick_loading (loading : state.cell.phase = gate.loading) :
    tick ops state =
      loadGate { state with cell := counted state.cell }
        (gate.weightMatrix state.cell) (gate.operand state.cell)
        gate.settling := by
  cases gate <;>
    simp [tick, running, loading, Gate.loading, Gate.weightMatrix,
      Gate.operand, Gate.settling, counted]

theorem tick_settling (settling : state.cell.phase = gate.settling) :
    tick ops state =
      settleGate { state with cell := counted state.cell } gate.draining := by
  cases gate <;>
    simp [tick, running, settling, Gate.settling, Gate.draining, counted]

theorem tick_draining (draining : state.cell.phase = gate.draining) :
    tick ops state =
      drainGate { state with cell := counted state.cell } (gate.latch ops)
        gate.next := by
  cases gate <;>
    simp [tick, running, draining, Gate.draining, Gate.latch, Gate.next,
      counted]

theorem tick_applyElementwise
    (applying : state.cell.phase = .applyElementwise) :
    (tick ops state).cell = applyElementwise (counted state.cell) ∧
      (tick ops state).feeder = state.feeder := by
  simp [tick, running, applying, counted]

end Gates

/-! ## Finished evaluations -/

section Finished

variable {step : Borrowed F → Borrowed F}
  (stays : ∀ state : Borrowed F, state.cell.isDone = true →
    (step state).cell = state.cell)
include stays

omit [Field F] in
/-- A step that leaves finished cells alone may be repeated. -/
theorem cell_iterate_of_isDone
    {state : Borrowed F}
    (finished : state.cell.isDone = true)
    (ticks : Nat) :
    (step^[ticks] state).cell = state.cell := by
  induction ticks with
  | zero => rfl
  | succ ticks unchanged =>
      rw [Function.iterate_succ_apply', stays _ (by rw [unchanged, finished]),
        unchanged]

omit [Field F] in
/-- A cell that is running after some ticks was running all along. -/
theorem running_of_later
    {state : Borrowed F}
    {ticks : Nat}
    (running : (step^[ticks] state).cell.isDone = false)
    {earlier : Nat}
    (before : earlier ≤ ticks) :
    (step^[earlier] state).cell.isDone = false := by
  by_contra finished
  have unchanged := cell_iterate_of_isDone stays
    (Bool.eq_true_of_not_eq_false finished) (ticks - earlier)
  rw [← Function.iterate_add_apply, Nat.sub_add_cancel before] at unchanged
  rw [unchanged] at running
  exact finished running

end Finished

theorem cell_tick_of_isDone
    (state : Borrowed F)
    (finished : state.cell.isDone = true) :
    (tick ops state).cell = state.cell := by
  rw [tick, if_pos finished]

/-! ## One gate -/

/-- The bottom row at the tick a gate is latched: the last column's product
and zeros. -/
def readout (weightMatrix : Weights F) (vec : Vec16 F) : Vec16 F :=
  fun lane =>
    if lane = Fin.last 15 then Matrix.vecMul vec weightMatrix.toMatrix lane
    else 0

theorem output_last
    {path : Datapath F}
    {weightMatrix : Weights F}
    (empty : ∀ row, path.feeder.delayLines row = [])
    (cleared : path.sa.Cleared)
    (sameWeights : path.sa.weights = weightMatrix.toMatrix)
    (vec : Vec16 F) :
    (path.ready vec 31).tick.1 = readout weightMatrix vec := by
  funext lane
  rw [Datapath.output_ready empty cleared, readout, sameWeights]
  refine if_congr ?_ rfl rfl
  simp only [Fin.ext_iff, Fin.val_last]
  omega

section DrainGate

variable (cell : GRUCell F) (path : Datapath F)
  (latch : GRUCell F → GRUCell F) (next : GRUPhase)

theorem drainGate_of_lt (waiting : cell.drainCount < kGEMMLatency) :
    drainGate ⟨cell, path.sa, path.feeder⟩ latch next =
      ⟨{ cell with saBottom := path.tick.1 }, path.tick.2.sa,
        path.tick.2.feeder⟩ :=
  if_neg (Nat.not_le_of_lt waiting)

theorem drainGate_of_le (full : kGEMMLatency ≤ cell.drainCount) :
    drainGate ⟨cell, path.sa, path.feeder⟩ latch next =
      ⟨{ latch { cell with saBottom := path.tick.1 } with
          drainCount := 0
          phase := next },
        path.tick.2.sa, path.tick.2.feeder⟩ :=
  if_pos full

end DrainGate

/-- The array is clocked thirty-one times without being read. -/
theorem iterate_draining
    (gate : Gate)
    (cell : GRUCell F)
    (running : cell.isDone = false)
    (draining : cell.phase = gate.draining)
    (path : Datapath F)
    (vec : Vec16 F)
    {ticks : Nat}
    (early : ticks < kGEMMLatency) :
    ∃ bottom,
      (tick ops)^[ticks]
          ⟨{ cell with drainCount := 0 }, (path.ready vec 0).sa,
            (path.ready vec 0).feeder⟩ =
        ⟨{ cell with drainCount := ticks, saBottom := bottom },
          (path.ready vec ticks).sa, (path.ready vec ticks).feeder⟩ := by
  induction ticks with
  | zero => exact ⟨cell.saBottom, rfl⟩
  | succ ticks earlier =>
      obtain ⟨bottom, reached⟩ := earlier (Nat.lt_of_succ_lt early)
      refine ⟨(path.ready vec ticks).tick.1, ?_⟩
      rw [Function.iterate_succ_apply', reached,
        tick_draining ops gate _ running draining, Datapath.ready_succ]
      exact drainGate_of_lt
        { cell with drainCount := ticks + 1, saBottom := bottom }
        (path.ready vec ticks) _ _ early

/-- The cell after a gate. -/
def afterGate (gate : Gate) (cell : GRUCell F) : GRUCell F :=
  { gate.latch ops
      { cell with
        saBottom := readout (gate.weightMatrix cell) (gate.operand cell) } with
    drainCount := 0
    phase := gate.next }

/-- The cell after a gate that has read a bottom row. -/
def latchedGate
    (gate : Gate)
    (cell : GRUCell F)
    (bottom : Vec16 F) : GRUCell F :=
  { gate.latch ops { cell with saBottom := bottom } with
    drainCount := 0
    phase := gate.next }

@[simp] theorem weightMatrix_latchedGate
    (gate latched : Gate)
    (cell : GRUCell F)
    (bottom : Vec16 F) :
    gate.weightMatrix (latchedGate ops latched cell bottom) =
      gate.weightMatrix cell := by
  cases latched <;> cases gate <;> rfl

@[simp] theorem operand_latchedGate
    (gate latched : Gate)
    (cell : GRUCell F)
    (bottom : Vec16 F) :
    gate.operand (latchedGate ops latched cell bottom) =
      gate.operand cell := by
  cases latched <;> cases gate <;> rfl

/-- At the thirty-second tick of a drain the gate is latched. -/
theorem tick_latching
    (gate : Gate)
    (cell : GRUCell F)
    (running : cell.isDone = false)
    (draining : cell.phase = gate.draining)
    (path : Datapath F)
    (last : cell.drainCount = 31) :
    tick ops ⟨cell, path.sa, path.feeder⟩ =
      ⟨latchedGate ops gate cell path.tick.1, path.tick.2.sa,
        path.tick.2.feeder⟩ := by
  have full : kGEMMLatency ≤ (counted cell).drainCount := by
    rw [counted, last]
    exact Nat.le_refl 32
  refine (tick_draining ops gate ⟨cell, path.sa, path.feeder⟩ running
    draining).trans ?_
  apply (drainGate_of_le (counted cell) path _ _ full).trans
  cases gate <;> rfl

/-- A gate takes thirty-four ticks and leaves the feeder empty. -/
theorem iterate_gate
    (gate : Gate)
    (state : Borrowed F)
    (running : state.cell.isDone = false)
    (loading : state.cell.phase = gate.loading)
    (empty : ∀ row, state.feeder.delayLines row = []) :
    ((tick ops)^[34] state).cell = afterGate ops gate state.cell ∧
      ∀ row, ((tick ops)^[34] state).feeder.delayLines row = [] := by
  let path : Datapath F :=
    ⟨state.feeder, state.sa.loadWeights (gate.weightMatrix state.cell)⟩
  let vec := gate.operand state.cell
  let cell : GRUCell F := { state.cell with phase := gate.draining }
  have settled : (tick ops)^[2] state =
      ⟨{ cell with drainCount := 0 }, (path.ready vec 0).sa,
        (path.ready vec 0).feeder⟩ := by
    rw [Function.iterate_succ_apply, Function.iterate_one,
      tick_loading ops gate state running loading]
    exact tick_settling ops gate _ running rfl
  obtain ⟨bottom, drained⟩ := iterate_draining ops gate cell running rfl path
    vec (show 31 < kGEMMLatency by decide)
  have read : (tick ops)^[34] state =
      ⟨afterGate ops gate state.cell, (path.ready vec 31).tick.2.sa,
        (path.ready vec 31).tick.2.feeder⟩ := by
    have sameWeights : path.sa.weights =
        (gate.weightMatrix state.cell).toMatrix := rfl
    have latched := output_last empty
      (state.sa.cleared_loadWeights (gate.weightMatrix state.cell))
      sameWeights vec
    rw [Function.iterate_add_apply (tick ops) 32 2, settled,
      Function.iterate_succ_apply', drained]
    refine (tick_latching ops gate
      { cell with drainCount := 31, saBottom := bottom } running rfl
      (path.ready vec 31) rfl).trans ?_
    rw [latched]
    cases gate <;> rfl
  rw [read]
  refine ⟨rfl, fun row => ?_⟩
  exact Datapath.delayLines_ready empty vec (show 15 ≤ 31 by decide) row

/-! ## The whole evaluation -/

section Equations

variable (cell : GRUCell F) (hPrev msg : Vec16 F)

/-- The GRU equations, over the four matrix products. -/
def equations (productR productZ productHn productIn : Vec16 F) : Vec16 F :=
  fun lane =>
    let r := ops.sigmoid (productR lane + cell.bR lane + msg lane)
    let z := ops.sigmoid (productZ lane + cell.bZ lane + msg lane)
    let n := ops.tanh (productIn lane + cell.bIn lane +
      r * (productHn lane + cell.bHn lane))
    (1 - z) * hPrev lane + z * n

/-- The reference GRU. -/
def reference : Vec16 F :=
  equations ops cell hPrev msg (cell.wR.toMatrix.mulVec hPrev)
    (cell.wZ.toMatrix.mulVec hPrev) (cell.wHn.toMatrix.mulVec hPrev)
    (cell.wIn.toMatrix.mulVec msg)

end Equations

/-- Ticked until a tick returns true, the cell holds a result. -/
def Evaluates (state : Borrowed F) (result : Vec16 F) : Prop :=
  ∃ ticks,
    (∀ earlier, earlier < ticks →
      ((tick ops)^[earlier] state).cell.isDone = false) ∧
    ((tick ops)^[ticks] state).cell.isDone = true ∧
    ((tick ops)^[ticks] state).cell.hNew = result

/-- There is one result. -/
theorem Evaluates.unique
    {state : Borrowed F}
    {first second : Vec16 F}
    (one : Evaluates ops state first)
    (other : Evaluates ops state second) :
    first = second := by
  obtain ⟨ticks, running, finished, rfl⟩ := one
  obtain ⟨moreTicks, stillRunning, alsoFinished, rfl⟩ := other
  rcases Nat.lt_trichotomy ticks moreTicks with less | same | more
  · exact absurd finished (Bool.eq_false_iff.mp (stillRunning ticks less))
  · rw [same]
  · exact absurd alsoFinished (Bool.eq_false_iff.mp (running moreTicks more))

/-- Steps that tick the cell, whatever else they do, and in which every gate
reads the given bottom row and leaves the feeder empty. -/
structure RunsGates
    (step : Borrowed F → Borrowed F)
    (bottom : Weights F → Vec16 F → Vec16 F) : Prop where
  cell_step : ∀ state, (step state).cell = (tick ops state).cell
  iterate_gate : ∀ (gate : Gate) (state : Borrowed F),
    state.cell.isDone = false → state.cell.phase = gate.loading →
      (∀ row, state.feeder.delayLines row = []) →
        (step^[34] state).cell =
            latchedGate ops gate state.cell
              (bottom (gate.weightMatrix state.cell)
                (gate.operand state.cell)) ∧
          ∀ row, (step^[34] state).feeder.delayLines row = []

section Runs

variable {ops : FloatOps F} {step : Borrowed F → Borrowed F}
  {bottom : Weights F → Vec16 F → Vec16 F}
  (runs : RunsGates ops step bottom)
  (cell : GRUCell F) (sa : SystolicArray F) {feeder : ArrayFeeder F}
  (hPrev msg : Vec16 F)
  (empty : ∀ row, feeder.delayLines row = [])
include runs

theorem RunsGates.cell_step_of_isDone
    (state : Borrowed F)
    (finished : state.cell.isDone = true) :
    (step state).cell = state.cell :=
  (runs.cell_step state).trans (cell_tick_of_isDone ops state finished)

include empty

/-- After four gates only the element-wise epilogue is left. -/
theorem RunsGates.iterate_gates :
    (step^[136] ⟨cell.start hPrev msg, sa, feeder⟩).cell =
        latchedGate ops .newX (latchedGate ops .newH
          (latchedGate ops .update
            (latchedGate ops .reset (cell.start hPrev msg)
              (bottom cell.wR hPrev))
            (bottom cell.wZ hPrev)) (bottom cell.wHn hPrev))
          (bottom cell.wIn msg) ∧
      ∀ row, (step^[136]
        ⟨cell.start hPrev msg, sa, feeder⟩).feeder.delayLines row = [] := by
  let state : Borrowed F := ⟨cell.start hPrev msg, sa, feeder⟩
  obtain ⟨reset, emptyReset⟩ := runs.iterate_gate .reset state rfl rfl empty
  obtain ⟨update, emptyUpdate⟩ := runs.iterate_gate .update
    (step^[34] state) (by rw [reset]; rfl) (by rw [reset]; rfl) emptyReset
  obtain ⟨newH, emptyNewH⟩ := runs.iterate_gate .newH
    (step^[34] (step^[34] state)) (by rw [update, reset]; rfl)
    (by rw [update, reset]; rfl) emptyUpdate
  obtain ⟨newX, emptyNewX⟩ := runs.iterate_gate .newX
    (step^[34] (step^[34] (step^[34] state)))
    (by rw [newH, update, reset]; rfl) (by rw [newH, update, reset]; rfl)
    emptyNewH
  have fourGates : step^[136] ⟨cell.start hPrev msg, sa, feeder⟩ =
      step^[34] (step^[34] (step^[34] (step^[34] state))) := by
    simp only [← Function.iterate_add_apply]
    rfl
  rw [newH, update, reset] at newX
  simp only [weightMatrix_latchedGate, operand_latchedGate] at newX
  rw [fourGates]
  exact ⟨newX, emptyNewX⟩

/-- An evaluation takes 137 steps and follows the GRU equations over the
bottom rows. -/
theorem RunsGates.iterate_evaluation :
    (∀ steps, steps < 137 →
      (step^[steps] ⟨cell.start hPrev msg, sa, feeder⟩).cell.isDone =
        false) ∧
    (step^[137] ⟨cell.start hPrev msg, sa, feeder⟩).cell.isDone = true ∧
    (step^[137] ⟨cell.start hPrev msg, sa, feeder⟩).cell.hNew =
      equations ops cell hPrev msg (bottom cell.wR hPrev)
        (bottom cell.wZ hPrev) (bottom cell.wHn hPrev)
        (bottom cell.wIn msg) := by
  obtain ⟨gates, -⟩ := runs.iterate_gates cell sa hPrev msg empty
  have running :
      (step^[136] ⟨cell.start hPrev msg, sa, feeder⟩).cell.isDone =
        false := by
    rw [gates]
    rfl
  have phase :
      (step^[136] ⟨cell.start hPrev msg, sa, feeder⟩).cell.phase =
        .applyElementwise := by
    rw [gates]
    rfl
  have finished := (tick_applyElementwise ops _ running phase).1
  rw [← runs.cell_step, ← Function.iterate_succ_apply' step, gates]
    at finished
  refine ⟨fun steps before => running_of_later runs.cell_step_of_isDone
    running (Nat.le_of_lt_succ before), ?_, ?_⟩
  · rw [finished]
    rfl
  · rw [finished]
    simp only [applyElementwise, counted, latchedGate, Gate.latch,
      latchNewGate, latchResetGatedH, latchUpdateGate, latchResetGate, start]
    rfl

end Runs

/-- On hardware of its own the cell reads the last column of each product. -/
theorem runsGates_tick : RunsGates ops (tick ops) readout :=
  ⟨fun _ => rfl, fun gate state running loading empty =>
    iterate_gate ops gate state running loading empty⟩

section Evaluation

variable (cell : GRUCell F) (sa : SystolicArray F) (feeder : ArrayFeeder F)
  (hPrev msg : Vec16 F)

/-- What an evaluation computes. -/
def result : Vec16 F :=
  equations ops cell hPrev msg (readout cell.wR hPrev)
    (readout cell.wZ hPrev) (readout cell.wHn hPrev) (readout cell.wIn msg)

/-- An evaluation takes 137 ticks and leaves the feeder empty. -/
theorem iterate_evaluation (empty : ∀ row, feeder.delayLines row = []) :
    (∀ ticks, ticks < 137 →
      ((tick ops)^[ticks]
        ⟨cell.start hPrev msg, sa, feeder⟩).cell.isDone = false) ∧
    ((tick ops)^[137] ⟨cell.start hPrev msg, sa, feeder⟩).cell.isDone =
      true ∧
    ((tick ops)^[137] ⟨cell.start hPrev msg, sa, feeder⟩).cell.hNew =
      result ops cell hPrev msg ∧
    ∀ row, ((tick ops)^[137]
      ⟨cell.start hPrev msg, sa, feeder⟩).feeder.delayLines row = [] := by
  obtain ⟨gates, emptyGates⟩ :=
    (runsGates_tick ops).iterate_gates cell sa hPrev msg empty
  obtain ⟨running, finished, computed⟩ :=
    (runsGates_tick ops).iterate_evaluation cell sa hPrev msg empty
  have phase :
      ((tick ops)^[136] ⟨cell.start hPrev msg, sa, feeder⟩).cell.phase =
        .applyElementwise := by
    rw [gates]
    rfl
  have sameFeeder := (tick_applyElementwise ops _
    (running 136 (by decide)) phase).2
  rw [← Function.iterate_succ_apply' (tick ops)] at sameFeeder
  refine ⟨running, finished, computed, ?_⟩
  rw [sameFeeder]
  exact emptyGates

/-- An evaluation follows the GRU equations over the readouts. -/
theorem evaluates_readouts (empty : ∀ row, feeder.delayLines row = []) :
    Evaluates ops ⟨cell.start hPrev msg, sa, feeder⟩
      (equations ops cell hPrev msg (readout cell.wR hPrev)
        (readout cell.wZ hPrev) (readout cell.wHn hPrev)
        (readout cell.wIn msg)) := by
  obtain ⟨running, finished, computed, -⟩ :=
    iterate_evaluation ops cell sa feeder hPrev msg empty
  exact ⟨137, running, finished, computed⟩

end Evaluation

/-! ## Agreement with the reference -/

/-- One GRU lane is the same under all activation functions exactly when the
pre-activations are, up to a reset gate that resets nothing. -/
theorem lane_agrees_iff
    [CharZero F]
    (h gateR gateZ input hidden gateR' gateZ' input' hidden' : F) :
    (∀ sigmoid tanh : F → F,
      (1 - sigmoid gateZ') * h +
          sigmoid gateZ' * tanh (input' + sigmoid gateR' * hidden') =
        (1 - sigmoid gateZ) * h +
          sigmoid gateZ * tanh (input + sigmoid gateR * hidden)) ↔
    gateZ' = gateZ ∧ hidden' = hidden ∧ input' = input ∧
      (gateR' = gateR ∨ hidden = 0) := by
  classical
  constructor
  · intro agrees
    have sameZ : gateZ' = gateZ := by
      by_contra differs
      have shifted := agrees (fun x => if x = gateZ then 1 else 0)
        fun _ => h + 1
      simp only [if_neg differs, if_true] at shifted
      have zeroIsOne : (0 : F) = 1 := by linear_combination shifted
      exact zero_ne_one zeroIsOne
    have once := agrees (fun _ => 1) id
    have twice := agrees (fun _ => 2) id
    simp only [id] at once twice
    have two : (2 : F) ≠ 0 := two_ne_zero
    have doubled : input' + 2 * hidden' = input + 2 * hidden := by
      apply mul_left_cancel₀ two
      linear_combination twice
    have sameHidden : hidden' = hidden := by
      linear_combination doubled - once
    have sameInput : input' = input := by
      linear_combination 2 * once - doubled
    refine ⟨sameZ, sameHidden, sameInput, ?_⟩
    by_contra neither
    obtain ⟨differs, hiddenNonzero⟩ := not_or.mp neither
    let sigmoid : F → F := fun x => if x = gateR' then 1 else 2
    have weighed := agrees sigmoid id
    have nonzero : sigmoid gateZ ≠ 0 := by
      simp only [sigmoid]
      split
      · exact one_ne_zero
      · exact two
    have atR' : sigmoid gateR' = 1 := if_pos rfl
    have atR : sigmoid gateR = 2 := if_neg (Ne.symm differs)
    rw [sameZ, sameHidden, sameInput, atR, atR'] at weighed
    simp only [id] at weighed
    apply mul_ne_zero nonzero hiddenNonzero
    linear_combination -weighed
  · rintro ⟨rfl, rfl, rfl, sameR | noHidden⟩ sigmoid tanh
    · rw [sameR]
    · rw [noHidden, mul_zero, mul_zero]

/-- A lane of the reference product is the one the latched tick holds: the
transposed product in the last lane, zero in the others. -/
def MatchesReadout
    (weightMatrix : Weights F)
    (vec : Vec16 F)
    (lane : Fin 16) : Prop :=
  if lane = Fin.last 15 then
    weightMatrix.toMatrix.mulVec vec lane =
      Matrix.vecMul vec weightMatrix.toMatrix lane
  else weightMatrix.toMatrix.mulVec vec lane = 0

theorem readout_eq_iff
    (weightMatrix : Weights F)
    (vec : Vec16 F)
    (lane : Fin 16) :
    readout weightMatrix vec lane = weightMatrix.toMatrix.mulVec vec lane ↔
      MatchesReadout weightMatrix vec lane := by
  unfold readout MatchesReadout
  split
  · exact eq_comm
  · exact eq_comm

/-- The condition on the weights, biases and operands of a lane under which
the lane is the reference's. -/
def LaneMatches
    (cell : GRUCell F)
    (hPrev msg : Vec16 F)
    (lane : Fin 16) : Prop :=
  MatchesReadout cell.wZ hPrev lane ∧ MatchesReadout cell.wHn hPrev lane ∧
    MatchesReadout cell.wIn msg lane ∧
      (MatchesReadout cell.wR hPrev lane ∨
        cell.wHn.toMatrix.mulVec hPrev lane + cell.bHn lane = 0)

theorem lane_equations_iff
    [CharZero F]
    (cell : GRUCell F)
    (hPrev msg : Vec16 F)
    (lane : Fin 16) :
    (∀ sigmoid tanh : F → F,
      equations (ops.withActivations sigmoid tanh) cell hPrev msg
          (readout cell.wR hPrev) (readout cell.wZ hPrev)
          (readout cell.wHn hPrev) (readout cell.wIn msg) lane =
        reference (ops.withActivations sigmoid tanh) cell hPrev msg lane) ↔
    LaneMatches cell hPrev msg lane := by
  apply (lane_agrees_iff (hPrev lane) _ _ _ _ _ _ _ _).trans
  simp only [add_left_inj, readout_eq_iff]
  exact and_congr_right fun _ => Iff.rfl

section Agreement

variable [CharZero F] (cell : GRUCell F) (sa : SystolicArray F)
  (feeder : ArrayFeeder F) (hPrev msg : Vec16 F)

/-- A cell that computes the reference meets the condition of every lane. -/
theorem laneMatches_of_evaluates
    (empty : feeder.isEmpty = true)
    (evaluates : ∀ sigmoid tanh : F → F,
      Evaluates (ops.withActivations sigmoid tanh)
        ⟨cell.start hPrev msg, sa, feeder⟩
        (reference (ops.withActivations sigmoid tanh) cell hPrev msg))
    (lane : Fin 16) :
    LaneMatches cell hPrev msg lane := by
  refine (lane_equations_iff ops cell hPrev msg lane).mp fun sigmoid tanh => ?_
  have computed := evaluates_readouts (ops.withActivations sigmoid tanh) cell
    sa feeder hPrev msg (ArrayFeeder.delayLines_of_isEmpty empty)
  exact congrFun (computed.unique _ (evaluates sigmoid tanh)) lane

/-- The cell computes the reference GRU, whatever the activation functions,
exactly when every lane meets its condition. -/
theorem evaluates_reference_iff (empty : feeder.isEmpty = true) :
    (∀ sigmoid tanh : F → F,
      Evaluates (ops.withActivations sigmoid tanh)
        ⟨cell.start hPrev msg, sa, feeder⟩
        (reference (ops.withActivations sigmoid tanh) cell hPrev msg)) ↔
    ∀ lane, LaneMatches cell hPrev msg lane := by
  refine ⟨laneMatches_of_evaluates ops cell sa feeder hPrev msg empty, ?_⟩
  intro lanes sigmoid tanh
  have agrees : equations (ops.withActivations sigmoid tanh) cell hPrev msg
      (readout cell.wR hPrev) (readout cell.wZ hPrev)
      (readout cell.wHn hPrev) (readout cell.wIn msg) =
        reference (ops.withActivations sigmoid tanh) cell hPrev msg := by
    funext lane
    exact (lane_equations_iff ops cell hPrev msg lane).mpr (lanes lane)
      sigmoid tanh
  rw [← agrees]
  exact evaluates_readouts (ops.withActivations sigmoid tanh) cell sa feeder
    hPrev msg (ArrayFeeder.delayLines_of_isEmpty empty)

end Agreement

/-- The cell with its default weights, on a newly built array and feeder. -/
theorem initial_evaluates_reference_iff :
    (∀ sigmoid tanh : ℚ → ℚ,
      Evaluates (FloatOps.atZero.withActivations sigmoid tanh)
        ⟨initial.start (fun _ => 1) (fun _ => 1 / 2), .initial, .initial⟩
        (reference (FloatOps.atZero.withActivations sigmoid tanh) initial
          (fun _ => 1) (fun _ => 1 / 2))) ↔
    ∀ lane, LaneMatches (initial : GRUCell ℚ) (fun _ => 1) (fun _ => 1 / 2)
      lane :=
  evaluates_reference_iff FloatOps.atZero initial .initial .initial _ _
    (by decide)

/-- The default weights are the identity matrix. -/
theorem toMatrix_identityWeights :
    (identityWeights : Weights F).toMatrix = 1 := by
  ext row column
  rw [Weights.toMatrix_apply, identityWeights, Matrix.one_apply]
  refine if_congr ?_ rfl rfl
  simp only [Weights.index, Fin.ext_iff]
  omega

/-- Identity weights, zero biases, h = 1 and msg = 1/2 do not give the
reference's result. -/
theorem identity_not_reference :
    ¬ ∀ sigmoid tanh : ℚ → ℚ,
      Evaluates (FloatOps.atZero.withActivations sigmoid tanh)
        ⟨initial.start (fun _ => 1) (fun _ => 1 / 2), .initial, .initial⟩
        (reference (FloatOps.atZero.withActivations sigmoid tanh) initial
          (fun _ => 1) (fun _ => 1 / 2)) := by
  intro evaluates
  have update : MatchesReadout (identityWeights : Weights ℚ) (fun _ => 1) 0 :=
    (laneMatches_of_evaluates FloatOps.atZero initial .initial .initial _ _
      (by decide) evaluates 0).1
  rw [MatchesReadout, if_neg (by decide), toMatrix_identityWeights,
    Matrix.one_mulVec] at update
  exact one_ne_zero update

end GRUCell

end PimGraphs
