import Mathlib.Algebra.BigOperators.Fin
import Mathlib.Data.Matrix.Mul
import PimGraphs.Library.Delay
import PimGraphs.Sizes

/-!
# The systolic array and its feeder

The array is a weight-stationary 16 by 16 grid of processing elements.  In one
tick every element multiplies and accumulates its latched inputs, the bottom
row is read out, and the outputs are latched by the neighbours below and to
the right.  The feeder keeps one delay line per row, in which a pushed vector
is skewed by one tick per row.

Only addition, multiplication and zero are used, so the definitions apply to
machine floats as well as to exact arithmetic.
-/

namespace PimGraphs

/-- Sixteen lanes. -/
abbrev Vec16 (F : Type) := Fin 16 → F

/-- The 256 elements of a row-major weight matrix. -/
abbrev Weights (F : Type) := Fin 256 → F

namespace Weights

variable {F : Type}

/-- Position of a matrix entry in the row-major vector. -/
def index (row column : Fin 16) : Fin 256 :=
  ⟨16 * row.val + column.val, by omega⟩

@[simp] theorem index_left_inj (row other column : Fin 16) :
    index row column = index other column ↔ row = other := by
  simp only [index, Fin.ext_iff]
  omega

/-- The matrix a row-major vector stands for. -/
def toMatrix (weights : Weights F) : Matrix (Fin 16) (Fin 16) F :=
  fun row column => weights (index row column)

@[simp] theorem toMatrix_apply
    (weights : Weights F)
    (row column : Fin 16) :
    weights.toMatrix row column = weights (index row column) := rfl

end Weights

/-- Multiply-accumulate unit with a stationary weight. -/
structure ProcessingElement (F : Type) where
  weight : F
  /-- Latched activation coming from the left. -/
  actIn : F
  /-- Latched partial sum coming from the top. -/
  psumIn : F
  actOut : F
  psumOut : F

namespace ProcessingElement

variable {F : Type} [Zero F]

instance : Inhabited (ProcessingElement F) := ⟨⟨0, 0, 0, 0, 0⟩⟩

/-- Pass the activation on and accumulate its product with the weight. -/
def compute [Add F] [Mul F] (pe : ProcessingElement F) :
    ProcessingElement F :=
  { pe with
    actOut := pe.actIn
    psumOut := pe.psumIn + pe.actIn * pe.weight }

end ProcessingElement

/-- The grid, indexed by row and column. -/
structure SystolicArray (F : Type) where
  pes : Fin 16 → Fin 16 → ProcessingElement F

namespace SystolicArray

variable {F : Type} [Zero F]

/-- A newly built array. -/
def initial : SystolicArray F := ⟨fun _ _ => default⟩

/-- Store the stationary weights and clear the input latches. -/
def loadWeights (array : SystolicArray F) (weightMatrix : Weights F) :
    SystolicArray F :=
  ⟨fun row column =>
    { array.pes row column with
      weight := weightMatrix (Weights.index row column)
      actIn := 0
      psumIn := 0 }⟩

section Tick

variable [Add F] [Mul F]

/-- Step 1: all elements compute at once. -/
def compute (array : SystolicArray F) : SystolicArray F :=
  ⟨fun row column => (array.pes row column).compute⟩

/-- Step 2: the partial sums leaving the bottom row. -/
def bottomOutputs (array : SystolicArray F) : Vec16 F :=
  fun column => (array.pes (Fin.last 15) column).psumOut

/-- Step 3: every element latches its upper and left neighbour's outputs; the
first row and column latch the array's inputs. -/
def shift
    (array : SystolicArray F)
    (leftActivations topPsums : Vec16 F) : SystolicArray F :=
  ⟨fun row column =>
    { array.pes row column with
      psumIn := Fin.cases (motive := fun _ => F) (topPsums column)
        (fun above => (array.pes above.castSucc column).psumOut) row
      actIn := Fin.cases (motive := fun _ => F) (leftActivations row)
        (fun before => (array.pes row before.castSucc).actOut) column }⟩

/-- One clock cycle: the outputs of the bottom row and the next state. -/
def tick
    (array : SystolicArray F)
    (leftActivations topPsums : Vec16 F) :
    Vec16 F × SystolicArray F :=
  let computed := array.compute
  (computed.bottomOutputs, computed.shift leftActivations topPsums)

end Tick

end SystolicArray

/-- Sixteen independent delay lines, one per row of the array. -/
structure ArrayFeeder (F : Type) where
  delayLines : Fin 16 → List F

namespace ArrayFeeder

variable {F : Type} [Zero F]

/-- A newly built feeder. -/
def initial : ArrayFeeder F := ⟨fun _ => []⟩

/-- Queue a vector; the line of row `i` gets `i` zeros in front of its lane. -/
def pushVector (feeder : ArrayFeeder F) (vec : Vec16 F) : ArrayFeeder F :=
  ⟨fun row =>
    feeder.delayLines row ++ List.replicate row.val 0 ++ [vec row]⟩

/-- Take the next activation of every row, zero where a line is empty. -/
def getNextActivations (feeder : ArrayFeeder F) :
    Vec16 F × ArrayFeeder F :=
  (fun row => (feeder.delayLines row).headD 0,
    ⟨fun row => (feeder.delayLines row).tail⟩)

/-- No delay line holds a value. -/
def isEmpty (feeder : ArrayFeeder F) : Bool :=
  decide (∀ row, (feeder.delayLines row).isEmpty)

omit [Zero F] in
theorem delayLines_of_isEmpty
    {feeder : ArrayFeeder F}
    (empty : feeder.isEmpty = true)
    (row : Fin 16) :
    feeder.delayLines row = [] :=
  List.isEmpty_iff.mp (of_decide_eq_true empty row)

end ArrayFeeder

end PimGraphs
