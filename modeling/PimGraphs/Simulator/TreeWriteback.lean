import PimGraphs.Simulator.Message

/-!
# The write-back of the reduction tree

Without a vertex program, every valid output of the accumulation unit is
written back.  An array puts the columns of its product out one after the
other, so one vector pushed into every vault reaches the unit as sixteen
columns, and each column in which some vault's product counts as real data is
written back on its own.
-/

namespace PimGraphs

namespace Hardware

variable {F : Type} [Field F]

/-- What a vault contributes to the reduction. -/
def product
    (weights : Fin 16 → Matrix (Fin 16) (Fin 16) F)
    (vectors : Fin 16 → Vec16 F) : Fin 16 → Vec16 F :=
  fun vault column => ∑ row, weights vault row column * vectors vault row

/-- Some vault's contribution to a column counts as real data. -/
def SignificantColumn
    (significant : F → Bool)
    (weights : Fin 16 → Matrix (Fin 16) (Fin 16) F)
    (vectors : Fin 16 → Vec16 F)
    (column : Fin 16) : Prop :=
  ∃ vault, significant (product weights vectors vault column) = true

/-- One column has all of the reduction: no contribution to any other column
counts as real data, and the contributions to it cancel out. -/
def OneColumn
    (significant : F → Bool)
    (weights : Fin 16 → Matrix (Fin 16) (Fin 16) F)
    (vectors : Fin 16 → Vec16 F) : Prop :=
  ∃ column, SignificantColumn significant weights vectors column ∧
    ∀ other, other ≠ column →
      ¬ SignificantColumn significant weights vectors other ∧
        reduction weights vectors other = 0

end Hardware

namespace RunState

open Hardware Aggregation

variable {F M : Type} [Field F]

/-- The part of a cycle that clocks the vaults and the accumulation unit. -/
def tickTree (config : RunConfig F M) (state : RunState F M) : RunState F M :=
  let (state, inputs) := state.tickVaults config
  state.tickPsau config inputs

/-- What the accumulation unit puts out in it. -/
def treeOutput
    (config : RunConfig F M)
    (state : RunState F M)
    (psau : Nat) : Bool × Vec16 F :=
  let (state, inputs) := state.tickVaults config
  let (valid, output, _) :=
    (state.store.psaus psau).tick inputs.vectors inputs.valid
  (valid, output)

/-- A cycle ticks the tree between the router and the vertex program. -/
theorem tickDatapath_eq (config : RunConfig F M) (state : RunState F M) :
    (state.tickDatapath config).1 =
      ((state.issuePiccolo config).tickRouter config).tickTree config := rfl

/-- The state after the tree has been clocked some times. -/
def afterTree
    (config : RunConfig F M)
    (state : RunState F M)
    (cycles : Nat) : RunState F M :=
  (tickTree config)^[cycles] state

theorem afterTree_succ
    (config : RunConfig F M)
    (state : RunState F M)
    (cycles : Nat) :
    state.afterTree config (cycles + 1) =
      (state.afterTree config cycles).tickTree config :=
  Function.iterate_succ_apply' _ _ _

/-- The vector is written back once, in the cycle in which the accumulation
unit puts it out, and nothing else is written back. -/
def WritesBackOnce
    (config : RunConfig F M)
    (state : RunState F M)
    (psau router : Nat)
    (vector : Vec16 F) : Prop :=
  ∃ time,
    (state.afterTree config time).treeOutput config psau = (true, vector) ∧
    ∀ cycles, (state.afterTree config cycles).store.routers router =
      if time < cycles then
        (state.store.routers router).enqueueRequest psauWriteback
      else state.store.routers router

/-- One vector has been pushed into each vault's empty feeder, in front of
cleared arrays and a cleared accumulation unit. -/
structure PushedOnce
    (hardware : Hardware)
    (config : RunConfig F M)
    (state : RunState F M)
    (router : Nat)
    (piccolo : Option Nat)
    (weights : Fin 16 → Matrix (Fin 16) (Fin 16) F)
    (vectors : Fin 16 → Vec16 F) : Prop where
  attached : config.attached =
    { hardware.attached (some router) piccolo with vertexProgram := none }
  cores : hardware.IdleCores state.store
  paths : ∀ vault, ∃ base : Datapath F,
    base.Idle ∧ base.sa.weights = weights vault ∧
      hardware.path state.store vault = base.push (some (vectors vault))
  unit : ∀ stage, (state.store.psaus hardware.psau).validBits stage = false

/-! ## One cycle -/

/-- Without a vertex program a valid output is handed to the router. -/
theorem store_tickPsau_of_noProgram
    {config : RunConfig F M}
    {psau router : Nat}
    (attached : config.attached.psau = some psau)
    (attachedRouter : config.attached.router = some router)
    (noProgram : config.attached.vertexProgram = none)
    (state : RunState F M)
    (inputs : TreeInputs F) :
    (state.tickPsau config inputs).store =
      let store := state.store.setPsau psau
        ((state.store.psaus psau).tick inputs.vectors inputs.valid).2.2
      if (state.store.psaus psau).validBits 3 then
        store.setRouter router
          ((state.store.routers router).enqueueRequest psauWriteback)
      else store := by
  unfold tickPsau
  simp only [attached, attachedRouter, noProgram]
  cases valid : (state.store.psaus psau).validBits 3
  case false =>
    simp [PartialSumAccumulationUnit.tick, valid]
  case true =>
    simp [PartialSumAccumulationUnit.tick, valid, route, Store.setPsau]

section Cycle

variable {hardware : Hardware} {config : RunConfig F M}
variable (vaults : hardware.Vaults config.attached) (state : RunState F M)
  (idle : hardware.IdleCores state.store)
include vaults idle

theorem routers_tickVaults :
    (state.tickVaults config).1.store.routers = state.store.routers := by
  have kept : SameBesidePaths state.store
      (state.tickVaults config).1.store ∧
        (state.tickVaults config).1.store.routers = state.store.routers := by
    refine List.foldlRecOn
      (motive := fun progress : RunState F M × TreeInputs F =>
        SameBesidePaths state.store progress.1.store ∧
          progress.1.store.routers = state.store.routers)
      _ _ ⟨⟨rfl, rfl, rfl, rfl⟩, rfl⟩ ?_
    rintro progress ⟨same, routers⟩ vault -
    rw [tickVault_eq vaults progress vault (same.idleCores idle)]
    exact ⟨⟨same.cores, same.psaus, same.piccolos, same.programs⟩, routers⟩
  exact kept.2

/-- What is put out in a cycle depends on the accumulation unit only. -/
theorem treeOutput_eq :
    state.treeOutput config hardware.psau =
      ((state.store.psaus hardware.psau).validBits 3,
        (state.store.psaus hardware.psau).stage4Out) := by
  obtain ⟨same, -, -⟩ := tickVaults_eq vaults state idle
  rw [← same.psaus]
  rfl

/-- What the tree is after a cycle. -/
structure TreeTicked
    (hardware : Hardware)
    (significant : F → Bool)
    (router : Nat)
    (before after : Store F) : Prop where
  cores : after.cores = before.cores
  paths : hardware.path after =
    fun vault => (hardware.path before vault).tick.2
  unit : after.psaus hardware.psau =
    ((before.psaus hardware.psau).tick
      (fun vault => (hardware.path before vault).tick.1)
      (anySignificant significant
        fun vault => (hardware.path before vault).tick.1)).2.2
  routers : after.routers router =
    if (before.psaus hardware.psau).validBits 3 then
      (before.routers router).enqueueRequest psauWriteback
    else before.routers router

theorem treeTicked_tickTree
    {router : Nat}
    (psau : config.attached.psau = some hardware.psau)
    (attachedRouter : config.attached.router = some router)
    (noProgram : config.attached.vertexProgram = none) :
    TreeTicked hardware config.ops.isSignificant router state.store
      (state.tickTree config).store := by
  obtain ⟨same, paths, inputs⟩ := tickVaults_eq vaults state idle
  have routers := routers_tickVaults vaults state idle
  have tree : (state.tickTree config).store = _ :=
    store_tickPsau_of_noProgram psau attachedRouter noProgram
      (state.tickVaults config).1 (state.tickVaults config).2
  rw [inputs, congrFun same.psaus, routers] at tree
  constructor
  · rw [tree]
    split
    · exact same.cores
    · exact same.cores
  · rw [tree, ← paths]
    split
    · rfl
    · rfl
  · rw [tree]
    split
    · exact Function.update_self _ _ _
    · exact Function.update_self _ _ _
  · rw [tree]
    split
    · exact Function.update_self _ _ _
    · exact congrFun routers router

end Cycle

/-! ## All cycles -/

section Columns

variable (significant : F → Bool) (products : Fin 16 → Vec16 F)

/-- The inputs of the accumulation unit, cycle by cycle. -/
def columnInputs (time : Nat) : (Fin 16 → Vec16 F) × Bool :=
  (column products time, anySignificant significant (column products time))

/-- A column counts as real data in the tick in which it is due. -/
theorem anySignificant_column_iff
    (insignificant : significant 0 = false)
    (time : Nat) :
    anySignificant significant (column products time) = true ↔
      ∃ due : Fin 16, time = 16 + due.val ∧
        ∃ vault, significant (products vault due) = true := by
  simp only [anySignificant, column, List.any_eq_true, List.mem_finRange,
    true_and]
  constructor
  · rintro ⟨vault, lane, counts⟩
    split at counts
    case isTrue due => exact ⟨lane, due, vault, counts⟩
    case isFalse => exact absurd counts (Bool.eq_false_iff.mp insignificant)
  · rintro ⟨due, isDue, vault, counts⟩
    refine ⟨vault, due, ?_⟩
    rw [if_pos isDue]
    exact counts

end Columns

section Run

variable {hardware : Hardware} {config : RunConfig F M}
  {state : RunState F M} {router : Nat} {piccolo : Option Nat}
  {weights : Fin 16 → Matrix (Fin 16) (Fin 16) F}
  {vectors : Fin 16 → Vec16 F}
  (pushed : state.PushedOnce hardware config router piccolo weights vectors)
include pushed

theorem PushedOnce.vaults : hardware.Vaults config.attached := by
  rw [pushed.attached]
  exact ⟨rfl, rfl, rfl⟩

theorem PushedOnce.ticked
    (reached : RunState F M)
    (idle : hardware.IdleCores reached.store) :
    TreeTicked hardware config.ops.isSignificant router reached.store
      (reached.tickTree config).store := by
  apply treeTicked_tickTree pushed.vaults reached idle
  · rw [pushed.attached]
    rfl
  · rw [pushed.attached]
    rfl
  · rw [pushed.attached]

theorem PushedOnce.idleCores (cycles : Nat) :
    hardware.IdleCores (state.afterTree config cycles).store := by
  induction cycles with
  | zero => exact pushed.cores
  | succ cycles idle =>
      rw [afterTree_succ]
      have same := (pushed.ticked _ idle).cores
      exact ⟨same ▸ idle.queues, same ▸ idle.stalls⟩

/-- The columns of the products come out of the arrays one after the other, and
the accumulation unit reduces them. -/
theorem PushedOnce.unit_afterTree (cycles : Nat) :
    (state.afterTree config cycles).store.psaus hardware.psau =
      (state.store.psaus hardware.psau).fed
        (columnInputs config.ops.isSignificant (product weights vectors))
        cycles := by
  choose base baseIdle baseWeights start using pushed.paths
  have paths (cycles : Nat) :
      hardware.path (state.afterTree config cycles).store = fun vault =>
        (base vault).ready (vectors vault) cycles := by
    induction cycles with
    | zero => exact funext start
    | succ cycles reached =>
        rw [afterTree_succ,
          (pushed.ticked _ (pushed.idleCores cycles)).paths, reached]
        rfl
  have outputs (cycles : Nat) :
      (fun vault => (hardware.path (state.afterTree config cycles).store
        vault).tick.1) = column (product weights vectors) cycles := by
    funext vault lane
    rw [paths, Datapath.output_ready (baseIdle vault).empty
      (baseIdle vault).cleared, baseWeights]
    refine if_congr Iff.rfl ?_ rfl
    simp only [Matrix.vecMul, dotProduct]
    exact Finset.sum_congr rfl fun row _ => mul_comm _ _
  induction cycles with
  | zero => rfl
  | succ cycles reached =>
      rw [afterTree_succ,
        (pushed.ticked _ (pushed.idleCores cycles)).unit, outputs, reached]
      rfl

/-- The unit puts a column out four cycles after the arrays do. -/
theorem PushedOnce.valid_treeOutput_iff
    (insignificant : config.ops.isSignificant 0 = false)
    (cycles : Nat) :
    ((state.afterTree config cycles).treeOutput config hardware.psau).1 =
        true ↔
      ∃ due : Fin 16, cycles = 20 + due.val ∧
        SignificantColumn config.ops.isSignificant weights vectors due := by
  rw [treeOutput_eq pushed.vaults _ (pushed.idleCores cycles),
    pushed.unit_afterTree,
    PartialSumAccumulationUnit.validBits_fed_iff pushed.unit]
  simp only [columnInputs, anySignificant_column_iff _ _ insignificant]
  constructor
  · rintro ⟨earlier, rfl, due, rfl, counts⟩
    exact ⟨due, by omega, counts⟩
  · rintro ⟨due, isDue, counts⟩
    exact ⟨16 + due.val, by omega, due, rfl, counts⟩

/-- And puts out the sum over all vaults in this column only. -/
theorem PushedOnce.treeOutput_column (due column : Fin 16) :
    ((state.afterTree config (20 + due.val)).treeOutput config
        hardware.psau).2 column =
      if column = due then reduction weights vectors column else 0 := by
  have four : 20 + due.val = 16 + due.val + 4 := by omega
  rw [treeOutput_eq pushed.vaults _ (pushed.idleCores _),
    pushed.unit_afterTree, four]
  exact GatheredVertex.reduce_column (product weights vectors) due column

/-- A cycle writes back what the unit puts out in it. -/
theorem PushedOnce.routers_afterTree_succ (cycles : Nat) :
    (state.afterTree config (cycles + 1)).store.routers router =
      if ((state.afterTree config cycles).treeOutput config
          hardware.psau).1 then
        ((state.afterTree config cycles).store.routers
          router).enqueueRequest psauWriteback
      else (state.afterTree config cycles).store.routers router := by
  rw [afterTree_succ, (pushed.ticked _ (pushed.idleCores cycles)).routers,
    treeOutput_eq pushed.vaults _ (pushed.idleCores cycles)]

omit pushed in
theorem enqueueRequest_psauWriteback_ne (router : HierarchicalRouter) :
    router.enqueueRequest psauWriteback ≠ router := by
  intro same
  have longer : router.globalQueue ++ [psauWriteback] = router.globalQueue :=
    congrArg HierarchicalRouter.globalQueue same
  exact List.cons_ne_nil _ _ (List.append_right_eq_self.mp longer)

theorem PushedOnce.oneColumn_of_writesBackOnce
    (insignificant : config.ops.isSignificant 0 = false)
    (once : state.WritesBackOnce config hardware.psau router
      (reduction weights vectors)) :
    OneColumn config.ops.isSignificant weights vectors := by
  obtain ⟨time, output, routers⟩ := once
  have validAt := pushed.valid_treeOutput_iff insignificant
  -- any other valid output is a second write-back
  have onlyThen (cycles : Nat)
      (valid : ((state.afterTree config cycles).treeOutput config
        hardware.psau).1 = true) :
      cycles = time := by
    have next := pushed.routers_afterTree_succ cycles
    rw [if_pos valid, routers, routers] at next
    rcases Nat.lt_trichotomy cycles time with early | same | late
    · rw [if_neg (by omega), if_neg (by omega)] at next
      exact absurd next.symm (enqueueRequest_psauWriteback_ne _)
    · exact same
    · rw [if_pos (by omega), if_pos late] at next
      exact absurd next.symm (enqueueRequest_psauWriteback_ne _)
  obtain ⟨column, rfl, counts⟩ :=
    (validAt time).mp (congrArg Prod.fst output)
  refine ⟨column, counts, ?_⟩
  intro other differs
  constructor
  · intro otherCounts
    have sameTime := onlyThen (20 + other.val)
      ((validAt _).mpr ⟨other, rfl, otherCounts⟩)
    exact differs (Fin.ext (Nat.add_left_cancel sameTime))
  · have whole := congrFun (congrArg Prod.snd output) other
    rw [pushed.treeOutput_column, if_neg differs] at whole
    exact whole.symm

theorem PushedOnce.writesBackOnce_of_oneColumn
    (insignificant : config.ops.isSignificant 0 = false)
    (oneColumn : OneColumn config.ops.isSignificant weights vectors) :
    state.WritesBackOnce config hardware.psau router
      (reduction weights vectors) := by
  obtain ⟨column, counts, others⟩ := oneColumn
  have validAt (cycles : Nat) :
      ((state.afterTree config cycles).treeOutput config hardware.psau).1 =
        true ↔ cycles = 20 + column.val := by
    rw [pushed.valid_treeOutput_iff insignificant]
    constructor
    · rintro ⟨due, isDue, dueCounts⟩
      by_cases same : due = column
      · rw [isDue, same]
      · exact absurd dueCounts (others due same).1
    · exact fun isDue => ⟨column, isDue, counts⟩
  refine ⟨20 + column.val, Prod.ext ((validAt _).mpr rfl) ?_, ?_⟩
  · funext lane
    rw [pushed.treeOutput_column]
    split
    case isTrue => rfl
    case isFalse differs => exact (others lane differs).2.symm
  · intro cycles
    induction cycles with
    | zero => exact (if_neg (Nat.not_lt_zero _)).symm
    | succ cycles reached =>
        rw [pushed.routers_afterTree_succ, reached]
        rcases Nat.lt_trichotomy cycles (20 + column.val) with
          early | due | late
        · rw [if_neg (fun valid => Nat.ne_of_lt early ((validAt _).mp valid)),
            if_neg (by omega), if_neg (by omega)]
        · rw [if_pos ((validAt _).mpr due), if_neg (by omega),
            if_pos (by omega)]
        · rw [if_neg (fun valid => Nat.ne_of_gt late ((validAt _).mp valid)),
            if_pos late, if_pos (by omega)]

/-- The reduction of the vectors is written back once, and nothing else is,
exactly when one column has all of it. -/
theorem writesBackOnce_reduction_iff
    (insignificant : config.ops.isSignificant 0 = false) :
    state.WritesBackOnce config hardware.psau router
        (reduction weights vectors) ↔
      OneColumn config.ops.isSignificant weights vectors :=
  ⟨pushed.oneColumn_of_writesBackOnce insignificant,
    pushed.writesBackOnce_of_oneColumn insignificant⟩

end Run

/-! ## Sixteen full vectors -/

section Witness

/-- Identity weights everywhere, and sixteen ones pushed into every feeder. -/
def filledVaults : RamulatorHbmSimulator ℚ (List (Nat × Nat)) :=
  let simulator := RamulatorHbmSimulator.initial .atZero
    { ramulator := FixedLatency.ramulator 2 } []
  { simulator with
    store :=
      { simulator.store with
        arrays := fun ref =>
          (simulator.store.arrays ref).loadWeights GRUCell.identityWeights
        feeders := fun ref => (simulator.store.feeders ref).pushVector 1 }
    attached :=
      { numberedVaults.attached (some 0) none with vertexProgram := none } }

theorem pushedOnce_filledVaults :
    filledVaults.enter.PushedOnce numberedVaults filledVaults.runConfig 0 none
      (fun _ => GRUCell.identityWeights.toMatrix) 1 where
  attached := rfl
  cores := ⟨fun _ => rfl, fun _ => rfl⟩
  paths := fun _ => ⟨⟨.initial, SystolicArray.initial.loadWeights
    GRUCell.identityWeights⟩, ⟨fun _ => rfl,
      SystolicArray.cleared_loadWeights _ _⟩, rfl, rfl⟩
  unit := fun _ => rfl

theorem filledVaults_writesBackOnce_iff :
    filledVaults.enter.WritesBackOnce filledVaults.runConfig
        numberedVaults.psau 0
        (reduction (fun _ => GRUCell.identityWeights.toMatrix) 1) ↔
      OneColumn FloatOps.atZero.isSignificant
        (fun _ => GRUCell.identityWeights.toMatrix) 1 :=
  writesBackOnce_reduction_iff pushedOnce_filledVaults (by decide +kernel)

/-- Every column is written back on its own. -/
theorem filledVaults_not_writesBackOnce :
    filledVaults.enter.PushedOnce numberedVaults filledVaults.runConfig 0 none
        (fun _ => GRUCell.identityWeights.toMatrix) 1 ∧
      ¬ filledVaults.enter.WritesBackOnce filledVaults.runConfig
        numberedVaults.psau 0
        (reduction (fun _ => GRUCell.identityWeights.toMatrix) 1) := by
  refine ⟨pushedOnce_filledVaults, ?_⟩
  intro once
  obtain ⟨column, -, others⟩ :=
    pushedOnce_filledVaults.oneColumn_of_writesBackOnce (by decide +kernel)
      once
  have counts (column : Fin 16) : SignificantColumn
      FloatOps.atZero.isSignificant
      (fun _ => GRUCell.identityWeights.toMatrix) 1 column := by
    refine ⟨0, ?_⟩
    revert column
    decide +kernel
  have differs : ∀ column : Fin 16, column + 1 ≠ column := by decide
  exact (others (column + 1) (differs column)).1 (counts (column + 1))

end Witness

end RunState

end PimGraphs
