import Mathlib.Algebra.Order.Ring.Rat
import PimGraphs.Compute.Systolic

/-!
# The GRU cell

A GRU evaluation borrows a systolic array and a feeder for four matrix
products, one after the other, and reads each product off the bottom row of
the array a fixed number of ticks after its operand was pushed.
-/

namespace PimGraphs

/-- The operations on floats that exact arithmetic does not determine: the
functions of the C++ library, the conversions between floats and integers and
the magnitude test of the simulator loop. -/
structure FloatOps (F : Type) where
  /-- `1.0f / (1.0f + std::exp(-x))`. -/
  sigmoid : F → F
  tanh : F → F
  cos : F → F
  sin : F → F
  pow : F → F → F
  /-- `static_cast<float>` of a 64-bit address. -/
  ofUInt64 : UInt64 → F
  /-- `static_cast<std::uint32_t>` of a register. -/
  toUInt32 : F → UInt32
  /-- `__builtin_memcpy` of a raw value into a float. -/
  ofBits : UInt32 → F
  /-- `std::abs(x) > 1e-6f`. -/
  isSignificant : F → Bool

namespace FloatOps

/-- Constant operations that agree with the library's where the argument is
zero, with the exact magnitude test. -/
def atZero : FloatOps ℚ where
  sigmoid := fun _ => 1 / 2
  tanh := fun _ => 0
  cos := fun _ => 1
  sin := fun _ => 0
  pow := fun _ _ => 1
  ofUInt64 := fun _ => 0
  toUInt32 := fun _ => 0
  ofBits := fun _ => 0
  isSignificant := fun x => decide (1 / 1000000 < |x|)

end FloatOps

section Lanes

variable {F : Type}

/-- Lane-wise sigmoid. -/
def vecSigmoid (ops : FloatOps F) (v : Vec16 F) : Vec16 F :=
  fun lane => ops.sigmoid (v lane)

/-- Lane-wise tanh. -/
def vecTanh (ops : FloatOps F) (v : Vec16 F) : Vec16 F :=
  fun lane => ops.tanh (v lane)

/-- Lane-wise product. -/
def vecHadamard [Mul F] (a b : Vec16 F) : Vec16 F :=
  fun lane => a lane * b lane

/-- Lane-wise sum. -/
def vecAdd [Add F] (a b : Vec16 F) : Vec16 F :=
  fun lane => a lane + b lane

/-- Lane-wise difference from a scalar. -/
def vecScalarSub [Sub F] (scalar : F) (v : Vec16 F) : Vec16 F :=
  fun lane => scalar - v lane

end Lanes

/-- Phases of one GRU evaluation. -/
inductive GRUPhase
  | idle
  | loadResetGate
  | settleResetGate
  | drainResetGate
  | loadUpdateGate
  | settleUpdateGate
  | drainUpdateGate
  | loadNewGateH
  | settleNewGateH
  | drainNewGateH
  | loadNewGateX
  | settleNewGateX
  | drainNewGateX
  | applyElementwise
  | done
  deriving DecidableEq, Repr

/-- Weights and biases of the gates, the operands, the intermediate results and
the position of one evaluation. -/
structure GRUCell (F : Type) where
  wR : Weights F
  wZ : Weights F
  wIn : Weights F
  wHn : Weights F
  bR : Vec16 F
  bZ : Vec16 F
  bIn : Vec16 F
  bHn : Vec16 F
  hPrev : Vec16 F
  msg : Vec16 F
  resetGate : Vec16 F
  updateGate : Vec16 F
  resetGatedH : Vec16 F
  newGate : Vec16 F
  /-- Last bottom-row readout of the systolic array. -/
  saBottom : Vec16 F
  hNew : Vec16 F
  phase : GRUPhase
  drainCount : Nat
  isDone : Bool

namespace GRUCell

variable {F : Type}

/-- Ticks between the push of an operand and the readout of its product. -/
def kGEMMLatency : Nat := 32

/-- The weights a new cell holds: the identity matrix. -/
def identityWeights [Zero F] [One F] : Weights F :=
  fun position => if position.val % 17 = 0 then 1 else 0

/-- A newly built cell. -/
def initial [Zero F] [One F] : GRUCell F where
  wR := identityWeights
  wZ := identityWeights
  wIn := identityWeights
  wHn := identityWeights
  bR := 0
  bZ := 0
  bIn := 0
  bHn := 0
  hPrev := 0
  msg := 0
  resetGate := 0
  updateGate := 0
  resetGatedH := 0
  newGate := 0
  saBottom := 0
  hNew := 0
  phase := .idle
  drainCount := 0
  isDone := false

/-- Store the weights of the four products. -/
def loadWeights (cell : GRUCell F) (wR wZ wIn wHn : Weights F) : GRUCell F :=
  { cell with wR, wZ, wIn, wHn }

/-- Store the four bias vectors. -/
def loadBiases (cell : GRUCell F) (bR bZ bIn bHn : Vec16 F) : GRUCell F :=
  { cell with bR, bZ, bIn, bHn }

/-- Begin an evaluation. -/
def start [Zero F] (cell : GRUCell F) (hPrev msg : Vec16 F) : GRUCell F :=
  { cell with
    hPrev := hPrev
    msg := msg
    phase := .loadResetGate
    drainCount := 0
    isDone := false
    saBottom := 0
    hNew := 0 }

/-- A cell together with the hardware it borrows. -/
structure Borrowed (F : Type) where
  cell : GRUCell F
  sa : SystolicArray F
  feeder : ArrayFeeder F

section Tick

variable [Zero F] [Add F] [Mul F]

/-- A LOAD phase: store a gate's weights and push its operand. -/
def loadGate
    (state : Borrowed F)
    (weightMatrix : Weights F)
    (operand : Vec16 F)
    (next : GRUPhase) : Borrowed F where
  cell := { state.cell with phase := next }
  sa := state.sa.loadWeights weightMatrix
  feeder := state.feeder.pushVector operand

/-- A SETTLE phase: restart the drain counter. -/
def settleGate (state : Borrowed F) (next : GRUPhase) : Borrowed F :=
  { state with cell := { state.cell with drainCount := 0, phase := next } }

/-- A DRAIN phase: clock the array, and at the last tick of the latency latch
the gate from the bottom row. -/
def drainGate
    (state : Borrowed F)
    (latch : GRUCell F → GRUCell F)
    (next : GRUPhase) : Borrowed F :=
  let (acts, feeder) := state.feeder.getNextActivations
  let (bottom, sa) := state.sa.tick acts 0
  let cell := { state.cell with saBottom := bottom }
  if kGEMMLatency ≤ cell.drainCount then
    ⟨{ latch cell with drainCount := 0, phase := next }, sa, feeder⟩
  else ⟨cell, sa, feeder⟩

/-- A tick of a DRAIN phase reads the bottom row, and may latch the gate. -/
theorem drainGate_cases
    (state : Borrowed F)
    (latch : GRUCell F → GRUCell F)
    (next : GRUPhase) :
    ∃ bottom,
      (drainGate state latch next).cell =
          { state.cell with saBottom := bottom } ∨
        (drainGate state latch next).cell =
          { latch { state.cell with saBottom := bottom } with
            drainCount := 0
            phase := next } := by
  refine ⟨(state.sa.tick state.feeder.getNextActivations.1 0).1, ?_⟩
  unfold drainGate
  simp only
  split
  · exact Or.inr rfl
  · exact Or.inl rfl

/-- r = sigmoid(W_r h + b_r + msg). -/
def latchResetGate (ops : FloatOps F) (cell : GRUCell F) : GRUCell F :=
  { cell with
    resetGate := vecSigmoid ops fun lane =>
      cell.saBottom lane + cell.bR lane + cell.msg lane }

/-- z = sigmoid(W_z h + b_z + msg). -/
def latchUpdateGate (ops : FloatOps F) (cell : GRUCell F) : GRUCell F :=
  { cell with
    updateGate := vecSigmoid ops fun lane =>
      cell.saBottom lane + cell.bZ lane + cell.msg lane }

/-- r * (W_hn h + b_hn). -/
def latchResetGatedH (cell : GRUCell F) : GRUCell F :=
  { cell with
    resetGatedH := vecHadamard cell.resetGate fun lane =>
      cell.saBottom lane + cell.bHn lane }

/-- n = tanh(W_in msg + b_in + r * (W_hn h + b_hn)). -/
def latchNewGate (ops : FloatOps F) (cell : GRUCell F) : GRUCell F :=
  { cell with
    newGate := vecTanh ops fun lane =>
      cell.saBottom lane + cell.bIn lane + cell.resetGatedH lane }

/-- h' = (1 - z) * h + z * n. -/
def applyElementwise [One F] [Sub F] (cell : GRUCell F) : GRUCell F :=
  { cell with
    hNew := vecAdd
      (vecHadamard (vecScalarSub 1 cell.updateGate) cell.hPrev)
      (vecHadamard cell.updateGate cell.newGate)
    isDone := true
    phase := .done }

/-- One clock cycle.  The source's return value is the `isDone` flag of the
result. -/
def tick [One F] [Sub F] (ops : FloatOps F) (state : Borrowed F) :
    Borrowed F :=
  if state.cell.isDone then state else
    let counted : Borrowed F :=
      { state with
        cell := { state.cell with drainCount := state.cell.drainCount + 1 } }
    match state.cell.phase with
    | .loadResetGate =>
        loadGate counted state.cell.wR state.cell.hPrev .settleResetGate
    | .settleResetGate => settleGate counted .drainResetGate
    | .drainResetGate =>
        drainGate counted (latchResetGate ops) .loadUpdateGate
    | .loadUpdateGate =>
        loadGate counted state.cell.wZ state.cell.hPrev .settleUpdateGate
    | .settleUpdateGate => settleGate counted .drainUpdateGate
    | .drainUpdateGate =>
        drainGate counted (latchUpdateGate ops) .loadNewGateH
    | .loadNewGateH =>
        loadGate counted state.cell.wHn state.cell.hPrev .settleNewGateH
    | .settleNewGateH => settleGate counted .drainNewGateH
    | .drainNewGateH => drainGate counted latchResetGatedH .loadNewGateX
    | .loadNewGateX =>
        loadGate counted state.cell.wIn state.cell.msg .settleNewGateX
    | .settleNewGateX => settleGate counted .drainNewGateX
    | .drainNewGateX =>
        drainGate counted (latchNewGate ops) .applyElementwise
    | .applyElementwise =>
        { counted with cell := applyElementwise counted.cell }
    | .done => counted
    | .idle => counted

end Tick

end GRUCell

end PimGraphs
