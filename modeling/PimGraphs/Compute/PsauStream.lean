import PimGraphs.Compute.Psau

/-!
# The accumulation unit as a pipeline

The source updates the four stages in place, the last one first, so that each
stage reads what the one before it held at the beginning of the tick.  Fed a
stream of inputs with any pattern of bubbles, the unit puts out the tree sum
of each valid input four ticks after it, once and in order.
-/

namespace PimGraphs

namespace PartialSumAccumulationUnit

open TreeSum

variable {F : Type}

/-! ## The stages in place -/

section InPlace

variable [Add F]

/-- Stage 4: add the two vectors of stage 3. -/
def addStage4 (unit : PartialSumAccumulationUnit F) :
    PartialSumAccumulationUnit F :=
  { unit with
    stage4Out := addPairs (n := 1) unit.stage3Regs 0
    validBits := Function.update unit.validBits 3 (unit.validBits 2) }

/-- Stage 3: add the four vectors of stage 2 in pairs. -/
def addStage3 (unit : PartialSumAccumulationUnit F) :
    PartialSumAccumulationUnit F :=
  { unit with
    stage3Regs := addPairs (n := 2) unit.stage2Regs
    validBits := Function.update unit.validBits 2 (unit.validBits 1) }

/-- Stage 2: add the eight vectors of stage 1 in pairs. -/
def addStage2 (unit : PartialSumAccumulationUnit F) :
    PartialSumAccumulationUnit F :=
  { unit with
    stage2Regs := addPairs (n := 4) unit.stage1Regs
    validBits := Function.update unit.validBits 1 (unit.validBits 0) }

/-- Stage 1: add the sixteen inputs in pairs. -/
def addStage1
    (unit : PartialSumAccumulationUnit F)
    (vpuOutputs : Fin 16 → Vec16 F)
    (inputValid : Bool) : PartialSumAccumulationUnit F :=
  { unit with
    stage1Regs := addPairs (n := 8) vpuOutputs
    validBits := Function.update unit.validBits 0 inputValid }

/-- No stage has been overwritten when the next one reads it. -/
theorem tick_eq_inPlace
    (unit : PartialSumAccumulationUnit F)
    (vpuOutputs : Fin 16 → Vec16 F)
    (inputValid : Bool) :
    unit.tick vpuOutputs inputValid =
      (unit.validBits 3, unit.stage4Out,
        (((unit.addStage4).addStage3).addStage2).addStage1 vpuOutputs
          inputValid) := by
  have bits :
      (Fin.cases (motive := fun _ => Bool) inputValid
          fun earlier => unit.validBits earlier.castSucc) =
        ((((unit.addStage4).addStage3).addStage2).addStage1 vpuOutputs
          inputValid).validBits := by
    funext stage
    match stage with
    | 0 => rfl
    | 1 => rfl
    | 2 => rfl
    | 3 => rfl
  rw [tick, bits]
  rfl

end InPlace

/-! ## Streams -/

/-- What a stream of ticks from construction hands the unit. -/
abbrev Inputs (F : Type) := Nat → (Fin 16 → Vec16 F) × Bool

/-- The flag and the vector a newly built unit returns in a tick. -/
def output [Zero F] [Add F] (inputs : Inputs F) (time : Nat) :
    Bool × Vec16 F :=
  let result := (initial.fed inputs time).tick (inputs time).1 (inputs time).2
  (result.1, result.2.1)

/-- The valid inputs of the first ticks, in order. -/
def validInputs (inputs : Inputs F) (ticks : Nat) :
    List (Fin 16 → Vec16 F) :=
  (List.range ticks).filterMap fun time =>
    if (inputs time).2 then some (inputs time).1 else none

/-- The vectors returned with the flag set in the first ticks, in order. -/
def validOutputs [Zero F] [Add F] (inputs : Inputs F) (ticks : Nat) :
    List (Vec16 F) :=
  (List.range ticks).filterMap fun time =>
    if (output inputs time).1 then some (output inputs time).2 else none

section Stream

variable [Zero F] [Add F] (inputs : Inputs F)

theorem output_add_four (time : Nat) :
    output inputs (time + 4) =
      ((inputs time).2, reduce (inputs time).1) := by
  obtain ⟨flag, result⟩ := tick_fed_add_four initial inputs time
    (inputs (time + 4)).1 (inputs (time + 4)).2
  exact Prod.ext flag result

/-- Nothing valid is returned before the first input has passed. -/
theorem output_fst_of_lt {time : Nat} (early : time < 4) :
    (output inputs time).1 = false := by
  have flag : (output inputs time).1 = (initial.fed inputs time).validBits 3 :=
    rfl
  rw [flag, ← Bool.not_eq_true,
    validBits_fed_iff (fun _ => rfl) inputs time]
  rintro ⟨earlier, isTime, -⟩
  omega

/-- Each valid input is returned once, in order, four ticks later. -/
theorem validOutputs_eq (ticks : Nat) :
    validOutputs inputs ticks =
      (validInputs inputs (ticks - 4)).map reduce := by
  induction ticks with
  | zero => rfl
  | succ ticks inductionHypothesis =>
      rw [validOutputs, List.range_succ, List.filterMap_append,
        ← validOutputs, inductionHypothesis]
      rcases Nat.lt_or_ge ticks 4 with early | late
      · have none := output_fst_of_lt inputs early
        rw [Nat.sub_eq_zero_of_le early, Nat.sub_eq_zero_of_le early.le]
        simp [none]
      · obtain ⟨time, rfl⟩ := Nat.exists_eq_add_of_le' late
        rw [Nat.add_sub_cancel, Nat.add_right_comm, Nat.add_sub_cancel,
          validInputs, validInputs, List.range_succ, List.filterMap_append,
          List.map_append]
        congr 1
        rw [List.filterMap_cons, List.filterMap_cons, output_add_four]
        cases (inputs time).2 with
        | false => rfl
        | true => rfl

/-- What a newly built unit returns for a stream of inputs. -/
structure StreamsOut : Prop where
  flag : ∀ time, (output inputs time).1 =
    if time < 4 then false else (inputs (time - 4)).2
  result : ∀ time lane, 4 ≤ time →
    (output inputs time).2 lane =
      treeSum 4 (laneOf (inputs (time - 4)).1 lane)
  inOrder : ∀ ticks, validOutputs inputs ticks =
    (validInputs inputs (ticks - 4)).map fun vectors lane =>
      treeSum 4 (laneOf vectors lane)

end Stream

/-- The unit streams every input through its tree, also where addition rounds;
exact sums are the plain sums over the vaults. -/
theorem streamsOut :
    (∀ {F : Type} [Zero F] [Add F] (inputs : Inputs F), StreamsOut inputs) ∧
      ∀ {F : Type} [AddCommMonoid F] (inputs : Inputs F) (time : Nat)
        (lane : Fin 16),
        (output inputs (time + 4)).2 lane =
          ∑ vault, (inputs time).1 vault lane := by
  constructor
  · intro F _ _ inputs
    constructor
    · intro time
      split
      case isTrue early => exact output_fst_of_lt inputs early
      case isFalse late =>
        obtain ⟨earlier, rfl⟩ :=
          Nat.exists_eq_add_of_le' (Nat.le_of_not_lt late)
        rw [output_add_four, Nat.add_sub_cancel]
    · intro time lane late
      obtain ⟨earlier, rfl⟩ := Nat.exists_eq_add_of_le' late
      rw [output_add_four, Nat.add_sub_cancel]
      exact reduce_eq_treeSum _ lane
    · intro ticks
      rw [validOutputs_eq]
      apply List.map_congr_left
      intro vectors _
      funext lane
      exact reduce_eq_treeSum vectors lane
  · intro F _ inputs time lane
    rw [output_add_four]
    exact reduce_apply _ lane

end PartialSumAccumulationUnit

end PimGraphs
