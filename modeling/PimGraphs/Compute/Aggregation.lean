import PimGraphs.Compute.Psau
import PimGraphs.Compute.VertexProgram
import PimGraphs.Compute.Wavefront

/-!
# From gathered vectors to the aggregated message

The gather, compute and drain phases of a vertex only concern the sixteen
datapaths, the accumulation unit and a few fields of the vertex program.  On
these a cycle is a small machine: the simulator clocks every array and the
unit once, and the program clocks the arrays again while it computes and the
unit again while it drains.
-/

namespace PimGraphs

/-- What the phases before the hidden-state load work on. -/
@[ext] structure Aggregation (F : Type) where
  paths : Fin 16 → Datapath F
  unit : PartialSumAccumulationUnit F
  phase : VertexProgramPhase
  computeCycles : Nat
  psauFlushCount : Nat
  partialSumInputs : Fin 16 → Vec16 F
  aggregatedMessage : Vec16 F

namespace Aggregation

variable {F : Type} [Field F] (significant : F → Bool)

/-- Whether some lane of some vault counts as real data. -/
def anySignificant (vectors : Fin 16 → Vec16 F) : Bool :=
  (List.finRange 16).any fun vault =>
    (List.finRange 16).any fun lane => significant (vectors vault lane)

/-- What the arrays put out in a cycle. -/
def outputs (state : Aggregation F) : Fin 16 → Vec16 F :=
  fun vault => (state.paths vault).tick.1

/-- The simulator's part of a cycle. -/
def clock (state : Aggregation F) : Aggregation F :=
  { state with
    paths := fun vault => (state.paths vault).tick.2
    unit := (state.unit.tick state.outputs
      (anySignificant significant state.outputs)).2.2 }

/-- The end of the gather phase. -/
def pushGathered (state : Aggregation F) (vectors : Fin 16 → Vec16 F) :
    Aggregation F :=
  { state with
    paths := fun vault => (state.paths vault).push (some (vectors vault))
    computeCycles := 0
    phase := .genUpdateCompute }

/-- The program's part of a cycle that computes. -/
def compute (state : Aggregation F) (saOutputs : Fin 16 → Vec16 F) :
    Aggregation F :=
  let clocked : Aggregation F :=
    { state with
      paths := fun vault => (state.paths vault).tick.2
      computeCycles := state.computeCycles + 1 }
  if 16 ≤ clocked.computeCycles then
    { clocked with
      partialSumInputs := saOutputs
      psauFlushCount := 0
      phase := .genUpdatePsauDrain }
  else clocked

/-- The program's part of a cycle that drains the accumulation unit. -/
def drain (state : Aggregation F) : Aggregation F :=
  let (outputValid, psauOut, unit) :=
    state.unit.tick state.partialSumInputs (decide (state.psauFlushCount = 0))
  let flushed : Aggregation F :=
    { state with
      unit := unit
      psauFlushCount := state.psauFlushCount + 1 }
  if outputValid ∨ TGNVertexProgram.kPSAUDepth + 2 < flushed.psauFlushCount then
    { flushed with
      aggregatedMessage := psauOut
      phase := .applyUpdateLoadH }
  else flushed

/-- The program's part of a cycle; `gathered` holds the vectors of the vaults
once all their gathers are done. -/
def advance
    (state : Aggregation F)
    (saOutputs : Fin 16 → Vec16 F)
    (gathered : Option (Fin 16 → Vec16 F)) : Aggregation F :=
  match state.phase with
  | .genUpdateGather => match gathered with
      | none => state
      | some vectors => state.pushGathered vectors
  | .genUpdateCompute => state.compute saOutputs
  | .genUpdatePsauDrain => state.drain
  | _ => state

/-- One cycle. -/
def cycle
    (state : Aggregation F)
    (gathered : Option (Fin 16 → Vec16 F)) : Aggregation F :=
  (state.clock significant).advance state.outputs gathered

section Steps

variable (state : Aggregation F)

theorem advance_gathering
    (gathering : state.phase = .genUpdateGather)
    (saOutputs : Fin 16 → Vec16 F)
    (gathered : Option (Fin 16 → Vec16 F)) :
    state.advance saOutputs gathered =
      (gathered.map state.pushGathered).getD state := by
  unfold advance
  rw [gathering]
  cases gathered with
  | none => rfl
  | some vectors => rfl

/-- A cycle that gathers clocks the arrays and pushes what is gathered. -/
theorem cycle_gathering
    (gathering : state.phase = .genUpdateGather)
    (gathered : Option (Fin 16 → Vec16 F)) :
    state.cycle significant gathered =
      (gathered.map (state.clock significant).pushGathered).getD
        (state.clock significant) :=
  advance_gathering (state.clock significant) gathering state.outputs gathered

theorem advance_computing
    (computing : state.phase = .genUpdateCompute)
    (saOutputs : Fin 16 → Vec16 F)
    (gathered : Option (Fin 16 → Vec16 F)) :
    state.advance saOutputs gathered = state.compute saOutputs := by
  unfold advance
  rw [computing]

theorem advance_draining
    (draining : state.phase = .genUpdatePsauDrain)
    (saOutputs : Fin 16 → Vec16 F)
    (gathered : Option (Fin 16 → Vec16 F)) :
    state.advance saOutputs gathered = state.drain := by
  unfold advance
  rw [draining]

theorem compute_of_lt
    (saOutputs : Fin 16 → Vec16 F)
    (early : state.computeCycles + 1 < 16) :
    state.compute saOutputs =
      { state with
        paths := fun vault => (state.paths vault).tick.2
        computeCycles := state.computeCycles + 1 } :=
  if_neg (Nat.not_le_of_lt early)

theorem compute_of_le
    (saOutputs : Fin 16 → Vec16 F)
    (last : 16 ≤ state.computeCycles + 1) :
    state.compute saOutputs =
      { state with
        paths := fun vault => (state.paths vault).tick.2
        computeCycles := state.computeCycles + 1
        partialSumInputs := saOutputs
        psauFlushCount := 0
        phase := .genUpdatePsauDrain } :=
  if_pos last

/-- The unit after the program's tick while draining. -/
def drainedUnit : PartialSumAccumulationUnit F :=
  (state.unit.tick state.partialSumInputs
    (decide (state.psauFlushCount = 0))).2.2

theorem drain_of_invalid
    (invalid : state.unit.validBits 3 = false)
    (early : state.psauFlushCount < 6) :
    state.drain =
      { state with
        unit := state.drainedUnit
        psauFlushCount := state.psauFlushCount + 1 } := by
  apply if_neg
  rintro (valid | late)
  · exact Bool.noConfusion (invalid.symm.trans valid)
  · exact Nat.not_le_of_lt early (Nat.le_of_lt_succ late)

theorem drain_of_valid (valid : state.unit.validBits 3 = true) :
    state.drain =
      { state with
        unit := state.drainedUnit
        psauFlushCount := state.psauFlushCount + 1
        aggregatedMessage := state.unit.stage4Out
        phase := .applyUpdateLoadH } :=
  if_pos (Or.inl valid)

end Steps

/-! ## The computation of one vertex -/

/-- What the arrays put out during one of their ticks: the column of the
products that is due. -/
def column (products : Fin 16 → Vec16 F) (time : Nat) : Fin 16 → Vec16 F :=
  fun vault lane => if time = 16 + lane.val then products vault lane else 0

/-- The inputs of the accumulation unit, from the first cycle that computes:
the array outputs of every other tick, and while the unit is drained the
latched outputs in every second tick. -/
def treeInputs (products : Fin 16 → Vec16 F) (time : Nat) :
    (Fin 16 → Vec16 F) × Bool :=
  if time < 16 then
    (column products (2 * time),
      anySignificant significant (column products (2 * time)))
  else if time % 2 = 0 then
    (column products (24 + time / 2),
      anySignificant significant (column products (24 + time / 2)))
  else (column products 30, decide (time = 17))

end Aggregation

/-- A vertex whose gather is done: the idle datapaths before the push, the
gathered vectors, and the rest of the state. -/
structure GatheredVertex (F : Type) [Field F] where
  rest : Aggregation F
  base : Fin 16 → Datapath F
  vectors : Fin 16 → Vec16 F
  idle : ∀ vault, (base vault).Idle

namespace GatheredVertex

open Aggregation

variable {F : Type} [Field F]

section States

variable (significant : F → Bool) (vertex : GatheredVertex F)

/-- The product each vault contributes. -/
def products : Fin 16 → Vec16 F :=
  fun vault =>
    Matrix.vecMul (vertex.vectors vault) (vertex.base vault).sa.weights

/-- The datapaths in front of a tick of the arrays. -/
def pathsAt (time : Nat) : Fin 16 → Datapath F :=
  fun vault => (vertex.base vault).ready (vertex.vectors vault) time

/-- The unit in front of one of its ticks. -/
def unitAt (time : Nat) : PartialSumAccumulationUnit F :=
  vertex.rest.unit.fed (treeInputs significant vertex.products) time

/-- The state after some cycles that compute. -/
def computing (cycles : Nat) : Aggregation F :=
  { vertex.rest with
    paths := vertex.pathsAt (2 * cycles)
    unit := vertex.unitAt significant cycles
    phase := .genUpdateCompute
    computeCycles := cycles }

/-- The state after some cycles that drain the unit. -/
def draining (cycles : Nat) : Aggregation F :=
  { vertex.rest with
    paths := vertex.pathsAt (32 + cycles)
    unit := vertex.unitAt significant (16 + 2 * cycles)
    phase := .genUpdatePsauDrain
    computeCycles := 16
    psauFlushCount := cycles
    partialSumInputs := column vertex.products 30 }

/-- The state in which the program has accepted an output of the unit. -/
def accepted (cycles : Nat) (message : Vec16 F) : Aggregation F :=
  { vertex.draining significant cycles with
    aggregatedMessage := message
    phase := .applyUpdateLoadH }

end States

section Cycles

variable (significant : F → Bool) (vertex : GatheredVertex F)
  (gathered : Option (Fin 16 → Vec16 F))

theorem outputs_pathsAt (state : Aggregation F) (time : Nat) :
    outputs { state with paths := vertex.pathsAt time } =
      column vertex.products time := by
  funext vault lane
  exact Datapath.output_ready (vertex.idle vault).empty
    (vertex.idle vault).cleared (vertex.vectors vault) time lane

/-- A clock of the arrays and the unit moves both one tick on. -/
theorem clock_pathsAt
    (state : Aggregation F)
    (time unitTime : Nat)
    (input : treeInputs significant vertex.products unitTime =
      (column vertex.products time,
        anySignificant significant (column vertex.products time))) :
    clock significant
        { state with
          paths := vertex.pathsAt time
          unit := vertex.unitAt significant unitTime } =
      { state with
        paths := vertex.pathsAt (time + 1)
        unit := vertex.unitAt significant (unitTime + 1) } := by
  have sameOutputs := vertex.outputs_pathsAt
    { state with unit := vertex.unitAt significant unitTime } time
  have next : vertex.unitAt significant (unitTime + 1) =
      ((vertex.unitAt significant unitTime).tick (column vertex.products time)
        (anySignificant significant (column vertex.products time))).2.2 := by
    rw [unitAt, PartialSumAccumulationUnit.fed, input]
    rfl
  rw [clock, sameOutputs, next]
  rfl

theorem treeInputs_computing {cycles : Nat} (computes : cycles < 16) :
    treeInputs significant vertex.products cycles =
      (column vertex.products (2 * cycles),
        anySignificant significant (column vertex.products (2 * cycles))) :=
  if_pos computes

/-- The first fifteen cycles only compute. -/
theorem cycle_computing {cycles : Nat} (early : cycles + 1 < 16) :
    (vertex.computing significant cycles).cycle significant gathered =
      vertex.computing significant (cycles + 1) := by
  have clocked := vertex.clock_pathsAt significant
    { vertex.rest with phase := .genUpdateCompute, computeCycles := cycles }
    (2 * cycles) cycles
    (vertex.treeInputs_computing significant (Nat.lt_of_succ_lt early))
  rw [cycle, computing, clocked]
  exact compute_of_lt _ _ early

/-- The sixteenth latches what the arrays have put out. -/
theorem cycle_computing_last :
    (vertex.computing significant 15).cycle significant gathered =
      vertex.draining significant 0 := by
  have clocked := vertex.clock_pathsAt significant
    { vertex.rest with phase := .genUpdateCompute, computeCycles := 15 }
    (2 * 15) 15 (vertex.treeInputs_computing significant (by decide))
  have sameOutputs := vertex.outputs_pathsAt
    { vertex.rest with
      unit := vertex.unitAt significant 15
      phase := .genUpdateCompute
      computeCycles := 15 } 30
  have latched := compute_of_le
    { vertex.rest with
      paths := vertex.pathsAt 31
      unit := vertex.unitAt significant 16
      phase := .genUpdateCompute
      computeCycles := 15 }
    (column vertex.products 30) (Nat.le_refl 16)
  rw [cycle, computing, clocked, sameOutputs]
  exact latched

/-- In a cycle that drains, the simulator's tick of the unit comes first. -/
theorem treeInputs_draining (cycles : Nat) :
    treeInputs significant vertex.products (16 + 2 * cycles) =
      (column vertex.products (32 + cycles),
        anySignificant significant (column vertex.products (32 + cycles))) := by
  have half : 24 + (16 + 2 * cycles) / 2 = 32 + cycles := by omega
  rw [treeInputs, if_neg (by omega), if_pos (by omega), half]

/-- The program's tick of the unit comes second. -/
theorem treeInputs_latched (cycles : Nat) :
    treeInputs significant vertex.products (16 + 2 * cycles + 1) =
      (column vertex.products 30, decide (cycles = 0)) := by
  rw [treeInputs, if_neg (by omega), if_neg (by omega)]
  congr 1
  rw [decide_eq_decide]
  omega

/-- A cycle that drains, up to the program's tick of the unit. -/
def drainClocked (cycles : Nat) : Aggregation F :=
  { vertex.draining significant cycles with
    paths := vertex.pathsAt (32 + (cycles + 1))
    unit := vertex.unitAt significant (16 + 2 * cycles + 1) }

theorem cycle_draining (cycles : Nat) :
    (vertex.draining significant cycles).cycle significant gathered =
      (vertex.drainClocked significant cycles).drain := by
  have clocked := vertex.clock_pathsAt significant
    (vertex.draining significant cycles) (32 + cycles) (16 + 2 * cycles)
    (vertex.treeInputs_draining significant cycles)
  have sameState : vertex.draining significant cycles =
      { vertex.draining significant cycles with
        paths := vertex.pathsAt (32 + cycles)
        unit := vertex.unitAt significant (16 + 2 * cycles) } := rfl
  rw [cycle, sameState, clocked]
  rfl

theorem drainedUnit_drainClocked (cycles : Nat) :
    (vertex.drainClocked significant cycles).drainedUnit =
      vertex.unitAt significant (16 + 2 * (cycles + 1)) := by
  have input := vertex.treeInputs_latched significant cycles
  have next : vertex.unitAt significant (16 + 2 * cycles + 1 + 1) =
      ((vertex.unitAt significant (16 + 2 * cycles + 1)).tick
        (column vertex.products 30) (decide (cycles = 0))).2.2 := by
    rw [unitAt, PartialSumAccumulationUnit.fed, input]
    rfl
  exact next.symm

/-- What the unit puts out at the program's tick went in four ticks before. -/
theorem output_drainClocked (cycles : Nat) :
    (vertex.drainClocked significant cycles).unit.validBits 3 =
        (treeInputs significant vertex.products (13 + 2 * cycles)).2 ∧
      (vertex.drainClocked significant cycles).unit.stage4Out =
        PartialSumAccumulationUnit.reduce
          (treeInputs significant vertex.products (13 + 2 * cycles)).1 := by
  have four : 16 + 2 * cycles + 1 = 13 + 2 * cycles + 4 := by omega
  rw [drainClocked, four]
  exact ⟨rfl, rfl⟩

/-- While nothing valid arrives, draining goes on. -/
theorem cycle_draining_of_invalid
    {cycles : Nat}
    (early : cycles < 6)
    (invalid : (treeInputs significant vertex.products
      (13 + 2 * cycles)).2 = false) :
    (vertex.draining significant cycles).cycle significant gathered =
      vertex.draining significant (cycles + 1) := by
  have output := vertex.output_drainClocked significant cycles
  rw [cycle_draining, drain_of_invalid _ (output.1.trans invalid) early,
    drainedUnit_drainClocked]
  rfl

/-- A valid output is accepted as the message. -/
theorem cycle_draining_of_valid
    {cycles : Nat}
    (valid : (treeInputs significant vertex.products
      (13 + 2 * cycles)).2 = true) :
    (vertex.draining significant cycles).cycle significant gathered =
      vertex.accepted significant (cycles + 1)
        (PartialSumAccumulationUnit.reduce
          (treeInputs significant vertex.products (13 + 2 * cycles)).1) := by
  have output := vertex.output_drainClocked significant cycles
  rw [cycle_draining, drain_of_valid _ (output.1.trans valid), output.2,
    drainedUnit_drainClocked]
  rfl

end Cycles

/-! ## The message -/

section Message

variable (significant : F → Bool) (vertex : GatheredVertex F)

/-- The column whose sum the program accepts: column 10 when some vault's lane
counts as real data, else the latched column 14. -/
def acceptedColumn : Fin 16 :=
  if (List.finRange 16).any fun vault => significant (vertex.products vault 10)
  then 10 else 14

/-- The message the program accepts. -/
def message : Vec16 F :=
  fun lane =>
    if lane = vertex.acceptedColumn significant then
      ∑ vault, vertex.products vault lane
    else 0

theorem column_eq (products : Fin 16 → Vec16 F) (due vault lane : Fin 16) :
    column products (16 + due.val) vault lane =
      if lane = due then products vault lane else 0 := by
  refine if_congr ?_ rfl rfl
  rw [Nat.add_left_cancel_iff, Fin.ext_iff, eq_comm]

theorem reduce_column (products : Fin 16 → Vec16 F) (due lane : Fin 16) :
    PartialSumAccumulationUnit.reduce (column products (16 + due.val)) lane =
      if lane = due then ∑ vault, products vault lane else 0 := by
  simp only [PartialSumAccumulationUnit.reduce_apply, column_eq]
  split
  · rfl
  · exact Finset.sum_const_zero

theorem anySignificant_column
    (insignificant : significant 0 = false)
    (products : Fin 16 → Vec16 F)
    (due : Fin 16) :
    anySignificant significant (column products (16 + due.val)) =
      (List.finRange 16).any fun vault => significant (products vault due) := by
  rw [Bool.eq_iff_iff]
  simp only [anySignificant, column_eq, List.any_eq_true, List.mem_finRange,
    true_and]
  refine exists_congr fun vault => ⟨?_, fun isSignificant => ⟨due, ?_⟩⟩
  · rintro ⟨lane, isSignificant⟩
    split at isSignificant
    case isTrue same => exact same ▸ isSignificant
    case isFalse _ =>
      exact absurd isSignificant (Bool.eq_false_iff.mp insignificant)
  · rw [if_pos rfl]
    exact isSignificant

/-- The phases in which the program computes and drains. -/
def Underway (state : Aggregation F) : Prop :=
  state.phase = .genUpdateCompute ∨ state.phase = .genUpdatePsauDrain

omit [Field F] in
theorem Underway.ne_load {state : Aggregation F} (underway : Underway state) :
    state.phase ≠ .applyUpdateLoadH := by
  rcases underway with computes | drains
  · rw [computes]
    exact VertexProgramPhase.noConfusion
  · rw [drains]
    exact VertexProgramPhase.noConfusion

section Run

variable {trace : Nat → Aggregation F}
  (first : trace 0 = vertex.computing significant 0)
  (steps : ∀ time, Underway (trace time) →
    ∃ gathered, trace (time + 1) = (trace time).cycle significant gathered)
include first steps

theorem trace_computing {time : Nat} (early : time < 16) :
    trace time = vertex.computing significant time := by
  induction time with
  | zero => exact first
  | succ time earlier =>
      have here := earlier (Nat.lt_of_succ_lt early)
      obtain ⟨gathered, next⟩ := steps time (Or.inl (by rw [here]; rfl))
      rw [next, here, vertex.cycle_computing significant gathered early]

theorem trace_draining : trace 16 = vertex.draining significant 0 := by
  have here := vertex.trace_computing significant first steps
    (show 15 < 16 by decide)
  obtain ⟨gathered, next⟩ := steps 15 (Or.inl (by rw [here]; rfl))
  rw [next, here, vertex.cycle_computing_last significant gathered]

theorem underway_early {time : Nat} (early : time < 17) :
    Underway (trace time) := by
  rcases Nat.lt_succ_iff_lt_or_eq.mp early with computes | drains
  · rw [vertex.trace_computing significant first steps computes]
    exact Or.inl rfl
  · rw [drains, vertex.trace_draining significant first steps]
    exact Or.inr rfl

omit first in
/-- Draining goes on or ends with a valid output. -/
theorem trace_drained
    {cycles : Nat}
    (early : cycles < 6)
    (here : trace (16 + cycles) = vertex.draining significant cycles) :
    trace (16 + cycles + 1) =
      if (treeInputs significant vertex.products (13 + 2 * cycles)).2 then
        vertex.accepted significant (cycles + 1)
          (PartialSumAccumulationUnit.reduce
            (treeInputs significant vertex.products (13 + 2 * cycles)).1)
      else vertex.draining significant (cycles + 1) := by
  obtain ⟨gathered, next⟩ := steps (16 + cycles)
    (Or.inr (by rw [here]; rfl))
  rw [next, here]
  cases valid : (treeInputs significant vertex.products (13 + 2 * cycles)).2
  case true => exact vertex.cycle_draining_of_valid significant gathered valid
  case false =>
    exact vertex.cycle_draining_of_invalid significant gathered early valid

omit first in
/-- A valid output is the message if it sums the accepted column. -/
theorem accepts_at
    {cycles : Nat}
    (early : cycles < 6)
    (here : trace (16 + cycles) = vertex.draining significant cycles)
    (before : ∀ time, time < 16 + cycles → Underway (trace time))
    (valid : (treeInputs significant vertex.products (13 + 2 * cycles)).2 =
      true)
    (sums : (treeInputs significant vertex.products (13 + 2 * cycles)).1 =
      column vertex.products (16 + (vertex.acceptedColumn significant).val)) :
    ∃ entry,
      (∀ time, time < entry → Underway (trace time)) ∧
      (trace entry).phase = .applyUpdateLoadH ∧
      (trace entry).aggregatedMessage = vertex.message significant := by
  have next := vertex.trace_drained significant steps early here
  rw [if_pos valid, sums] at next
  refine ⟨16 + cycles + 1, fun time earlier => ?_, ?_, ?_⟩
  · rcases Nat.lt_succ_iff_lt_or_eq.mp earlier with inside | last
    · exact before time inside
    · rw [last, here]
      exact Or.inr rfl
  · rw [next]
    rfl
  · rw [next]
    exact funext (reduce_column vertex.products _)

/-- Once its vectors are pushed, the program accepts the message. -/
theorem trace_accepts (insignificant : significant 0 = false) :
    ∃ entry,
      (∀ time, time < entry → Underway (trace time)) ∧
      (trace entry).phase = .applyUpdateLoadH ∧
      (trace entry).aggregatedMessage = vertex.message significant := by
  have input10 := vertex.treeInputs_computing significant
    (show 13 < 16 by decide)
  have input14 := vertex.treeInputs_computing significant
    (show 15 < 16 by decide)
  have latched := vertex.treeInputs_latched significant 0
  have valid10 := anySignificant_column significant insignificant
    vertex.products 10
  have here := vertex.trace_draining significant first steps
  have next := vertex.trace_drained significant steps
    (show 0 < 6 by decide) here
  have before : ∀ time, time < 17 → Underway (trace time) :=
    fun _ => vertex.underway_early significant first steps
  cases some10 : (List.finRange 16).any fun vault =>
      significant (vertex.products vault 10)
  case true =>
    have isTen : vertex.acceptedColumn significant = 10 := if_pos some10
    refine vertex.accepts_at significant steps (show 0 < 6 by decide) here
      (fun time earlier => before time (Nat.lt_succ_of_lt earlier)) ?_ ?_
    · rw [input10]
      exact valid10.trans some10
    · rw [input10, isTen]
      rfl
  case false =>
    have isFourteen : vertex.acceptedColumn significant = 14 :=
      if_neg (Bool.eq_false_iff.mp some10)
    have invalid : (treeInputs significant vertex.products 13).2 = false := by
      rw [input10]
      exact valid10.trans some10
    rw [if_neg (Bool.eq_false_iff.mp invalid)] at next
    cases some14 : (treeInputs significant vertex.products 15).2
    case true =>
      refine vertex.accepts_at significant steps (show 1 < 6 by decide) next
        before some14 ?_
      rw [input14, isFourteen]
      rfl
    case false =>
      have last := vertex.trace_drained significant steps
        (show 1 < 6 by decide) next
      rw [if_neg (Bool.eq_false_iff.mp some14)] at last
      refine vertex.accepts_at significant steps (show 2 < 6 by decide) last
        (fun time earlier => ?_) ?_ ?_
      · rcases Nat.lt_succ_iff_lt_or_eq.mp earlier with inside | same
        · exact before time inside
        · rw [same, next]
          exact Or.inr rfl
      · rw [latched]
        rfl
      · rw [latched, isFourteen]
        rfl

end Run

/-- The message is the sum over all vaults exactly when every other column of
the sum vanishes. -/
theorem message_eq_iff :
    (∀ lane, vertex.message significant lane =
      ∑ vault, vertex.products vault lane) ↔
    ∀ lane, lane ≠ vertex.acceptedColumn significant →
      ∑ vault, vertex.products vault lane = 0 := by
  refine forall_congr' fun lane => ?_
  rw [message]
  split
  case isTrue same => exact ⟨fun _ other => absurd same other, fun _ => rfl⟩
  case isFalse other => exact ⟨fun same _ => same.symm, fun zero =>
    (zero other).symm⟩

end Message

end GatheredVertex

end PimGraphs
