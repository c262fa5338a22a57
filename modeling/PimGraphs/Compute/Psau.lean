import PimGraphs.Compute.Systolic
import PimGraphs.Library.TreeSum

/-!
# The partial sum accumulation unit

A four-stage binary adder tree over the vectors of the sixteen vaults.  All
stages are registered, and four valid bits travel along with the data.
-/

namespace PimGraphs

/-- The registers of the four stages of the reduction tree, and a valid bit for
each. -/
structure PartialSumAccumulationUnit (F : Type) where
  stage1Regs : Fin 8 → Vec16 F
  stage2Regs : Fin 4 → Vec16 F
  stage3Regs : Fin 2 → Vec16 F
  stage4Out : Vec16 F
  validBits : Fin 4 → Bool

namespace PartialSumAccumulationUnit

open TreeSum

variable {F : Type}

/-- A newly built unit. -/
def initial [Zero F] : PartialSumAccumulationUnit F where
  stage1Regs := fun _ _ => 0
  stage2Regs := fun _ _ => 0
  stage3Regs := fun _ _ => 0
  stage4Out := fun _ => 0
  validBits := fun _ => false

/-- Left operand of one adder of a tree level. -/
def evenInput {n : Nat} (pair : Fin n) : Fin (2 * n) :=
  ⟨2 * pair.val, by omega⟩

/-- Right operand of one adder of a tree level. -/
def oddInput {n : Nat} (pair : Fin n) : Fin (2 * n) :=
  ⟨2 * pair.val + 1, by omega⟩

/-- Add neighbouring vectors, halving their number. -/
def addPairs [Add F] {n : Nat} (vectors : Fin (2 * n) → Vec16 F) :
    Fin n → Vec16 F :=
  fun pair lane =>
    vectors (evenInput pair) lane + vectors (oddInput pair) lane

/-- One cycle: whether a fully reduced vector drops out, that vector, and the
next state.  Every stage reads the previous one's registers before they are
overwritten. -/
def tick [Add F]
    (unit : PartialSumAccumulationUnit F)
    (vpuOutputs : Fin 16 → Vec16 F)
    (inputValid : Bool) :
    Bool × Vec16 F × PartialSumAccumulationUnit F :=
  (unit.validBits 3, unit.stage4Out,
    { stage4Out := addPairs (n := 1) unit.stage3Regs 0
      stage3Regs := addPairs (n := 2) unit.stage2Regs
      stage2Regs := addPairs (n := 4) unit.stage1Regs
      stage1Regs := addPairs (n := 8) vpuOutputs
      validBits := Fin.cases (motive := fun _ => Bool) inputValid
        fun earlier => unit.validBits earlier.castSucc })

/-! ## The reduction -/

/-- The vector all sixteen inputs are reduced to. -/
def reduce [Add F] (vectors : Fin 16 → Vec16 F) : Vec16 F :=
  addPairs (n := 1) (addPairs (n := 2) (addPairs (n := 4)
    (addPairs (n := 8) vectors))) 0

/-- One lane of the sixteen vectors. -/
def laneOf (vectors : Fin 16 → Vec16 F) (lane : Fin 16) : Nat → F :=
  fun vault => vectors (Fin.ofNat 16 vault) lane

/-- The four levels of adders compute the balanced tree. -/
theorem reduce_eq_treeSum [Add F]
    (vectors : Fin 16 → Vec16 F)
    (lane : Fin 16) :
    reduce vectors lane = treeSum 4 (laneOf vectors lane) := by
  rw [treeSum_succ_eq_pairs, treeSum_succ_eq_pairs, treeSum_succ_eq_pairs,
    treeSum_succ_eq_pairs]
  rfl

/-- The tree adds every vault's lane once. -/
theorem reduce_apply
    [AddCommMonoid F]
    (vectors : Fin 16 → Vec16 F)
    (lane : Fin 16) :
    reduce vectors lane = ∑ vault, vectors vault lane := by
  have size : 2 ^ 4 = 16 := rfl
  rw [reduce_eq_treeSum, treeSum_eq_sum, size, Finset.sum_range]
  apply Finset.sum_congr rfl
  intro vault _
  rw [laneOf, Fin.ofNat_val_eq_self]

/-- The unit before a tick, when fed a stream of inputs. -/
def fed [Add F]
    (unit : PartialSumAccumulationUnit F)
    (inputs : Nat → (Fin 16 → Vec16 F) × Bool) :
    Nat → PartialSumAccumulationUnit F
  | 0 => unit
  | time + 1 =>
      ((unit.fed inputs time).tick (inputs time).1 (inputs time).2).2.2

/-- An input is put out, fully reduced, four ticks later. -/
theorem tick_fed_add_four [Add F]
    (unit : PartialSumAccumulationUnit F)
    (inputs : Nat → (Fin 16 → Vec16 F) × Bool)
    (time : Nat)
    (vectors : Fin 16 → Vec16 F)
    (valid : Bool) :
    ((unit.fed inputs (time + 4)).tick vectors valid).1 = (inputs time).2 ∧
      ((unit.fed inputs (time + 4)).tick vectors valid).2.1 =
        reduce (inputs time).1 :=
  ⟨rfl, rfl⟩

/-- What a cleared unit puts out has gone in four ticks before. -/
theorem validBits_fed_iff [Add F]
    {unit : PartialSumAccumulationUnit F}
    (clear : ∀ stage, unit.validBits stage = false)
    (inputs : Nat → (Fin 16 → Vec16 F) × Bool)
    (time : Nat) :
    (unit.fed inputs time).validBits 3 = true ↔
      ∃ earlier, time = earlier + 4 ∧ (inputs earlier).2 = true := by
  -- until the first input arrives the initial bits come out, the last first
  match time with
  | 0 =>
      have last : (unit.fed inputs 0).validBits 3 = unit.validBits 3 := rfl
      simp [last, clear]
  | 1 =>
      have last : (unit.fed inputs 1).validBits 3 = unit.validBits 2 := rfl
      simp [last, clear]
  | 2 =>
      have last : (unit.fed inputs 2).validBits 3 = unit.validBits 1 := rfl
      simp [last, clear]
  | 3 =>
      have last : (unit.fed inputs 3).validBits 3 = unit.validBits 0 := rfl
      simp [last, clear]
  | earlier + 4 =>
      have last : (unit.fed inputs (earlier + 4)).validBits 3 =
          (inputs earlier).2 := rfl
      simp [last]

end PartialSumAccumulationUnit

end PimGraphs
