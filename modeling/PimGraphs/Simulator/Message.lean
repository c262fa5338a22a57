import PimGraphs.Memory.FixedLatency
import PimGraphs.Simulator.Aggregate

/-!
# The message a vertex is updated with

From the start of a vertex the program gathers, pushes what the vaults have
gathered and enters the hidden-state load with an aggregated message.  The
message is the sum of the vaults' products in one column and zero elsewhere:
column 10 when some vault's lane counts as real data there, and column 14
otherwise.
-/

namespace PimGraphs

namespace Hardware

variable {F : Type} [Field F]

/-- The sum over all vaults of a gathered vector times the loaded weights. -/
def reduction
    (weights : Fin 16 → Matrix (Fin 16) (Fin 16) F)
    (vectors : Fin 16 → Vec16 F) : Vec16 F :=
  fun column => ∑ vault, ∑ row, weights vault row column * vectors vault row

/-- The column the program's drain reads: column 10 when the product of some
vault counts as real data there, else column 14. -/
def readColumn
    (significant : F → Bool)
    (weights : Fin 16 → Matrix (Fin 16) (Fin 16) F)
    (vectors : Fin 16 → Vec16 F) : Fin 16 :=
  if (List.finRange 16).any fun vault =>
      significant (∑ row, weights vault row 10 * vectors vault row)
  then 10 else 14

end Hardware

namespace RunState

open Hardware

variable {F M : Type} [Field F]

section Run

variable (hardware : Hardware) (config : RunConfig F M) (state : RunState F M)

/-- The state after some cycles. -/
def afterCycles (cycles : Nat) : RunState F M :=
  (cycle config)^[cycles] state

theorem afterCycles_succ (cycles : Nat) :
    state.afterCycles config (cycles + 1) =
      (state.afterCycles config cycles).cycle config :=
  Function.iterate_succ_apply' _ _ _

/-- The weights the arrays hold when the vertex starts. -/
def loadedWeights : Fin 16 → Matrix (Fin 16) (Fin 16) F :=
  fun vault => (hardware.path state.store vault).sa.weights

/-- The vectors the vaults' data buffers hold after the gather. -/
def gatheredVectors (gatherCycles : Nat) : Fin 16 → Vec16 F :=
  hardware.gatheredVector config.ops
    (state.afterCycles config gatherCycles).store

/-- A vertex has been started on idle vaults, and after some cycles all
gathers are done for the first time. -/
structure Gathers (router piccolo : Option Nat) (gatherCycles : Nat) : Prop
    where
  attached : config.attached = hardware.attached router piccolo
  ready : hardware.Ready state.store
  started : (state.store.programs hardware.program).phase = .genUpdateGather
  idle : ∀ vault, (hardware.path state.store vault).Idle
  waiting : ∀ cycles, cycles < gatherCycles →
    hardware.allDone (state.afterCycles config cycles).store = false
  complete :
    hardware.allDone (state.afterCycles config gatherCycles).store = true

/-- The program first enters the hidden-state load with a message. -/
def EntersLoadWith (message : Vec16 F) : Prop :=
  ∃ entry,
    (∀ cycles, cycles < entry →
      ((state.afterCycles config cycles).store.programs
        hardware.program).phase ≠ .applyUpdateLoadH) ∧
    ((state.afterCycles config entry).store.programs
      hardware.program).phase = .applyUpdateLoadH ∧
    ((state.afterCycles config entry).store.programs
      hardware.program).aggregatedMessage = message

variable {hardware config state}

/-- There is one such message. -/
theorem EntersLoadWith.unique
    {first second : Vec16 F}
    (one : state.EntersLoadWith hardware config first)
    (other : state.EntersLoadWith hardware config second) :
    first = second := by
  obtain ⟨entry, before, atEntry, rfl⟩ := one
  obtain ⟨otherEntry, otherBefore, atOther, rfl⟩ := other
  rcases Nat.lt_trichotomy entry otherEntry with less | same | more
  · exact absurd atEntry (otherBefore entry less)
  · rw [same]
  · exact absurd atOther (before otherEntry more)

end Run

section Gathering

variable {hardware : Hardware} {config : RunConfig F M} {state : RunState F M}
variable {router piccolo : Option Nat} {gatherCycles : Nat}
variable (gathers : state.Gathers hardware config router piccolo gatherCycles)
include gathers

theorem ready_afterCycles (cycles : Nat) :
    hardware.Ready (state.afterCycles config cycles).store := by
  induction cycles with
  | zero => exact gathers.ready
  | succ cycles ready =>
      rw [afterCycles_succ]
      exact ready_cycle gathers.attached _ ready

/-- While gathers are outstanding the vaults stay idle. -/
theorem gathering_afterCycles {cycles : Nat} (early : cycles ≤ gatherCycles) :
    (hardware.aggregation (state.afterCycles config cycles).store).phase =
        .genUpdateGather ∧
      ∀ vault,
        (hardware.path (state.afterCycles config cycles).store vault).Idle ∧
        (hardware.path (state.afterCycles config cycles).store
          vault).sa.weights = (hardware.path state.store vault).sa.weights := by
  induction cycles with
  | zero => exact ⟨gathers.started, fun vault => ⟨gathers.idle vault, rfl⟩⟩
  | succ cycles earlier =>
      obtain ⟨gathering, vaults⟩ := earlier (Nat.le_of_succ_le early)
      have outstanding : hardware.gathered config.ops
          (state.afterCycles config cycles).store = none := by
        rw [gathered, gathers.waiting cycles early]
        rfl
      have next := aggregation_cycle gathers.attached
        (state.afterCycles config cycles) (ready_afterCycles gathers cycles)
        (Or.inl gathering)
      rw [← afterCycles_succ, outstanding] at next
      have clocked : hardware.aggregation
          (state.afterCycles config (cycles + 1)).store =
            (hardware.aggregation (state.afterCycles config
              cycles).store).clock config.ops.isSignificant :=
        next.trans (Aggregation.cycle_gathering _ _ gathering none)
      have paths : hardware.path
          (state.afterCycles config (cycles + 1)).store = fun vault =>
            (hardware.path (state.afterCycles config
              cycles).store vault).tick.2 :=
        congrArg Aggregation.paths clocked
      refine ⟨(congrArg Aggregation.phase clocked).trans gathering,
        fun vault => ?_⟩
      rw [paths]
      exact ⟨(vaults vault).1.tick, (vaults vault).2⟩

/-- The vertex once its gather is done. -/
def gatheredVertex : GatheredVertex F where
  rest := (hardware.aggregation
    (state.afterCycles config gatherCycles).store).clock
      config.ops.isSignificant
  base := fun vault => (hardware.path
    (state.afterCycles config gatherCycles).store vault).tick.2
  vectors := hardware.gatheredVector config.ops
    (state.afterCycles config gatherCycles).store
  idle := fun vault =>
    ((gathering_afterCycles gathers (Nat.le_refl _)).2 vault).1.tick

theorem products_gatheredVertex (vault column : Fin 16) :
    (gatheredVertex gathers).products vault column =
      ∑ row, (hardware.path state.store vault).sa.weights row column *
        hardware.gatheredVector config.ops
          (state.afterCycles config gatherCycles).store vault row := by
  have sameWeights :=
    ((gathering_afterCycles gathers (Nat.le_refl _)).2 vault).2
  rw [← sameWeights]
  simp only [GatheredVertex.products, Matrix.vecMul, dotProduct]
  exact Finset.sum_congr rfl fun row _ => mul_comm _ _

/-- The first state that computes. -/
theorem aggregation_gathered :
    hardware.aggregation
        (state.afterCycles config (gatherCycles + 1)).store =
      (gatheredVertex gathers).computing config.ops.isSignificant 0 := by
  obtain ⟨gathering, vaults⟩ :=
    gathering_afterCycles gathers (Nat.le_refl gatherCycles)
  have vectors : hardware.gathered config.ops
      (state.afterCycles config gatherCycles).store =
        some (hardware.gatheredVector config.ops
          (state.afterCycles config gatherCycles).store) := by
    rw [gathered, gathers.complete]
    rfl
  have next := aggregation_cycle gathers.attached
    (state.afterCycles config gatherCycles)
    (ready_afterCycles gathers gatherCycles) (Or.inl gathering)
  rw [← afterCycles_succ, vectors] at next
  exact next.trans (Aggregation.cycle_gathering _ _ gathering _)

/-- From there on a cycle is a cycle of the aggregation. -/
theorem aggregation_steps
    (time : Nat)
    (underway : GatheredVertex.Underway (hardware.aggregation
      (state.afterCycles config (gatherCycles + 1 + time)).store)) :
    ∃ gathered, hardware.aggregation
        (state.afterCycles config (gatherCycles + 1 + (time + 1))).store =
      (hardware.aggregation (state.afterCycles config
        (gatherCycles + 1 + time)).store).cycle
          config.ops.isSignificant gathered := by
  have next := aggregation_cycle gathers.attached
    (state.afterCycles config (gatherCycles + 1 + time))
    (ready_afterCycles gathers _) (Or.inr underway)
  rw [← afterCycles_succ] at next
  exact ⟨_, next⟩

/-- The first state that drains the accumulation unit. -/
theorem aggregation_draining :
    hardware.aggregation
        (state.afterCycles config (gatherCycles + 17)).store =
      (gatheredVertex gathers).draining config.ops.isSignificant 0 :=
  (gatheredVertex gathers).trace_draining config.ops.isSignificant
    (aggregation_gathered gathers) (aggregation_steps gathers)

/-- The program enters the hidden-state load with the sum of one column. -/
theorem entersLoadWith_message
    (insignificant : config.ops.isSignificant 0 = false) :
    state.EntersLoadWith hardware config
      ((gatheredVertex gathers).message config.ops.isSignificant) := by
  obtain ⟨entry, underway, phase, message⟩ :=
    (gatheredVertex gathers).trace_accepts config.ops.isSignificant
      (aggregation_gathered gathers) (aggregation_steps gathers) insignificant
  refine ⟨gatherCycles + 1 + entry, fun cycles before => ?_, phase, message⟩
  rcases Nat.lt_or_ge gatherCycles cycles with later | early
  · obtain ⟨time, rfl⟩ := Nat.exists_eq_add_of_le later
    exact (underway time (Nat.add_lt_add_iff_left.mp before)).ne_load
  · have gathering : ((state.afterCycles config cycles).store.programs
        hardware.program).phase = .genUpdateGather :=
      (gathering_afterCycles gathers early).1
    rw [gathering]
    exact VertexProgramPhase.noConfusion

theorem acceptedColumn_gatheredVertex (significant : F → Bool) :
    (gatheredVertex gathers).acceptedColumn significant =
      readColumn significant (loadedWeights hardware state)
        (gatheredVectors hardware config state gatherCycles) := by
  unfold GatheredVertex.acceptedColumn readColumn
  simp only [products_gatheredVertex]
  rfl

/-- The program enters the hidden-state load with the reduction of the
gathered vectors exactly when it vanishes in every column but the one the
drain reads. -/
theorem entersLoadWith_reduction_iff
    (insignificant : config.ops.isSignificant 0 = false) :
    let weights := loadedWeights hardware state
    let vectors := gatheredVectors hardware config state gatherCycles
    state.EntersLoadWith hardware config (reduction weights vectors) ↔
      ∀ column,
        column ≠ readColumn config.ops.isSignificant weights vectors →
          reduction weights vectors column = 0 := by
  intro weights vectors
  have enters := entersLoadWith_message gathers insignificant
  have total (column : Fin 16) :
      ∑ vault, (gatheredVertex gathers).products vault column =
        reduction weights vectors column :=
    Finset.sum_congr rfl fun vault _ =>
      products_gatheredVertex gathers vault column
  have message := (gatheredVertex gathers).message_eq_iff
    config.ops.isSignificant
  simp only [total, acceptedColumn_gatheredVertex] at message
  refine Iff.trans ⟨fun entersReduction => ?_, fun same => ?_⟩ message
  · exact congrFun (enters.unique entersReduction)
  · exact funext same ▸ enters

end Gathering

/-! ## Sixteen vaults with one gathered value each -/

/-- Components with one number per vault. -/
def numberedVaults : Hardware where
  cores := Fin.val
  feeders := Fin.val
  arrays := Fin.val
  piccolos := Fin.val
  psau := 0
  program := 0
  feeders_injective := Fin.val_injective
  arrays_injective := Fin.val_injective
  piccolos_injective := Fin.val_injective

/-- Exact arithmetic that reads one bit pattern, that of 1. -/
def readsOne : FloatOps ℚ :=
  { FloatOps.atZero with
    ofBits := fun bits => if bits = 0x3f800000 then 1 else 0 }

/-- Identity weights everywhere and a vertex without neighbors started, after
which the value 1 is pushed into every data buffer. -/
def unitVaults : RamulatorHbmSimulator ℚ (List (Nat × Nat)) :=
  let simulator := RamulatorHbmSimulator.initial readsOne
    { ramulator := FixedLatency.ramulator 2 } []
  let refs : Fin 16 → Option Nat := fun vault => some vault.val
  let (program, store) :=
    (TGNVertexProgram.initial refs 0 refs refs).startVertex
    { simulator.store with
      arrays := fun ref =>
        (simulator.store.arrays ref).loadWeights GRUCell.identityWeights }
    {}
  { simulator with
    store :=
      { store.setProgram 0 program with
        piccolos := fun ref =>
          { store.piccolos ref with
            db := (store.piccolos ref).db.push 0x3f800000 } }
    attached := numberedVaults.attached none none }

theorem gathers_unitVaults :
    unitVaults.enter.Gathers numberedVaults unitVaults.runConfig none none 0
    where
  attached := rfl
  ready :=
    { drives := ⟨rfl, rfl, rfl, rfl⟩
      queues := fun _ => rfl
      stalls := fun _ => rfl }
  started := rfl
  idle := fun _ => ⟨fun _ => rfl, SystolicArray.cleared_loadWeights _ _⟩
  waiting := fun cycles early => absurd early (Nat.not_lt_zero cycles)
  complete := by decide +kernel

theorem unitVaults_entersLoadWith_reduction_iff :
    unitVaults.enter.EntersLoadWith numberedVaults unitVaults.runConfig
        (reduction (unitVaults.enter.loadedWeights numberedVaults)
          (unitVaults.enter.gatheredVectors numberedVaults
            unitVaults.runConfig 0)) ↔
      ∀ column,
        column ≠ readColumn readsOne.isSignificant
            (unitVaults.enter.loadedWeights numberedVaults)
            (unitVaults.enter.gatheredVectors numberedVaults
              unitVaults.runConfig 0) →
          reduction (unitVaults.enter.loadedWeights numberedVaults)
            (unitVaults.enter.gatheredVectors numberedVaults
              unitVaults.runConfig 0) column = 0 :=
  entersLoadWith_reduction_iff gathers_unitVaults (by decide +kernel)

/-- Column 0 of the reduction is 16, but the message is zero there. -/
theorem unitVaults_not_entersLoadWith_reduction :
    ¬ unitVaults.enter.EntersLoadWith numberedVaults unitVaults.runConfig
        (reduction (unitVaults.enter.loadedWeights numberedVaults)
          (unitVaults.enter.gatheredVectors numberedVaults
            unitVaults.runConfig 0)) := by
  intro enters
  have same := enters.unique
    (entersLoadWith_message gathers_unitVaults (by decide +kernel))
  have notRead : (0 : Fin 16) ≠
      (gatheredVertex gathers_unitVaults).acceptedColumn
        readsOne.isSignificant := by
    unfold GatheredVertex.acceptedColumn
    split
    · decide
    · decide
  have nonzero : reduction (unitVaults.enter.loadedWeights numberedVaults)
      (unitVaults.enter.gatheredVectors numberedVaults
        unitVaults.runConfig 0) 0 ≠ 0 := by
    decide +kernel
  exact nonzero ((congrFun same 0).trans (if_neg notRead))

end RunState

end PimGraphs
