import PimGraphs.Compute.Psau
import PimGraphs.Compute.Simd
import PimGraphs.Library.Sweep
import PimGraphs.Memory.Router

/-!
# Hardware store and the two-phase vertex program

Components refer to each other by pointers.  A store holds the objects the
pointers refer to, one table per class, so that two components that share an
object refer to the same entry.  The vertex program drives the controllers,
arrays, feeders and the accumulation unit it refers to and returns the reads
its controllers enqueue on their ports.
-/

namespace PimGraphs

/-- Phases of one vertex. -/
inductive VertexProgramPhase
  | idle
  | genUpdateGather
  | genUpdateCompute
  | genUpdatePsauDrain
  | applyUpdateLoadH
  | applyUpdateGru
  | writeback
  | done
  deriving DecidableEq, Repr

/-- Per-vertex configuration passed to `startVertex`. -/
structure VertexProgramConfig where
  vertexAddr : UInt64 := 0
  hiddenStateAddr : UInt64 := 0
  outputAddr : UInt64 := 0
  numNeighbors : UInt32 := 0
  neighborOffsets : List UInt32 := []
  deriving DecidableEq, Repr

/-- Cycles spent in each phase of a vertex, and the vertices done.  The cycle
counters are 64-bit in the source and `verticesDone` is 32-bit, so a natural
number stands for it up to 2^32 - 1 vertices. -/
structure VertexProgramStats where
  gatherCycles : Nat := 0
  computeCycles : Nat := 0
  psauCycles : Nat := 0
  loadHCycles : Nat := 0
  gruCycles : Nat := 0
  totalCycles : Nat := 0
  verticesDone : Nat := 0
  deriving DecidableEq, Repr

/-- The vertex program: the hardware of the sixteen vaults it refers to, the
vertex it works on, what it has computed for it so far and its statistics. -/
structure TGNVertexProgram (F : Type) where
  piccolos : Fin 16 → Option Nat
  psau : Nat
  systolicArrays : Fin 16 → Option Nat
  feeders : Fin 16 → Option Nat
  gruCells : Fin 16 → GRUCell F
  cfg : VertexProgramConfig := {}
  phase : VertexProgramPhase := .idle
  partialSumInputs : Fin 16 → Vec16 F
  aggregatedMessage : Vec16 F
  prevHiddenState : Vec16 F
  newHiddenState : Vec16 F
  gatherCycles : Nat := 0
  computeCycles : Nat := 0
  psauCycles : Nat := 0
  loadHCycles : Nat := 0
  gruCycles : Nat := 0
  totalCycles : Nat := 0
  psauFlushCount : Nat := 0
  hLoadDone : Bool := false
  writebackReady : Bool := false
  verticesDone : Nat := 0

/-- The objects that pointers refer to. -/
structure Store (F : Type) where
  cores : Nat → SIMDCore F
  feeders : Nat → ArrayFeeder F
  arrays : Nat → SystolicArray F
  psaus : Nat → PartialSumAccumulationUnit F
  routers : Nat → HierarchicalRouter
  piccolos : Nat → PiccoloGatherController
  programs : Nat → TGNVertexProgram F

namespace Store

variable {F : Type}

/-- Replace a core. -/
def setCore (store : Store F) (ref : Nat) (core : SIMDCore F) : Store F :=
  { store with cores := Function.update store.cores ref core }

/-- Replace a feeder. -/
def setFeeder (store : Store F) (ref : Nat) (feeder : ArrayFeeder F) :
    Store F :=
  { store with feeders := Function.update store.feeders ref feeder }

/-- Replace an array. -/
def setArray (store : Store F) (ref : Nat) (array : SystolicArray F) :
    Store F :=
  { store with arrays := Function.update store.arrays ref array }

/-- Replace an accumulation unit. -/
def setPsau (store : Store F) (ref : Nat)
    (unit : PartialSumAccumulationUnit F) : Store F :=
  { store with psaus := Function.update store.psaus ref unit }

/-- Replace a router. -/
def setRouter (store : Store F) (ref : Nat) (router : HierarchicalRouter) :
    Store F :=
  { store with routers := Function.update store.routers ref router }

/-- Replace a gather controller. -/
def setPiccolo (store : Store F) (ref : Nat)
    (controller : PiccoloGatherController) : Store F :=
  { store with piccolos := Function.update store.piccolos ref controller }

/-- Replace a vertex program. -/
def setProgram (store : Store F) (ref : Nat)
    (program : TGNVertexProgram F) : Store F :=
  { store with programs := Function.update store.programs ref program }

end Store

namespace SIMDCore

variable {F : Type}

/-- The array and feeder a core may lend to its GRU cell. -/
def lentHardware (core : SIMDCore F) (store : Store F) :
    Option (SystolicArray F × ArrayFeeder F) :=
  match core.gruSa, core.gruFeeder with
  | some sa, some feeder => some (store.arrays sa, store.feeders feeder)
  | _, _ => none

/-- What one core tick leaves in the store. -/
def installTick
    [Zero F]
    (core : SIMDCore F)
    (ref : Nat)
    (store : Store F)
    (result : TickResult F) : Store F :=
  let store := (store.setCore ref result.core).setPiccolo core.piccolo
    result.piccolo
  let store := match core.gruSa, core.gruFeeder, result.gruHardware with
    | some sa, some feeder, some (array, lines) =>
        (store.setArray sa array).setFeeder feeder lines
    | _, _, _ => store
  match result.pushed with
  | none => store
  | some vec => store.setFeeder core.arrayFeeder
      ((store.feeders core.arrayFeeder).pushVector vec)

theorem routers_installTick
    [Zero F]
    (core : SIMDCore F)
    (ref : Nat)
    (store : Store F)
    (result : TickResult F) :
    (core.installTick ref store result).routers = store.routers := by
  unfold installTick
  split <;> split <;> rfl

theorem programs_installTick
    [Zero F]
    (core : SIMDCore F)
    (ref : Nat)
    (store : Store F)
    (result : TickResult F) :
    (core.installTick ref store result).programs = store.programs := by
  unfold installTick
  split <;> split <;> rfl

theorem psaus_installTick
    [Zero F]
    (core : SIMDCore F)
    (ref : Nat)
    (store : Store F)
    (result : TickResult F) :
    (core.installTick ref store result).psaus = store.psaus := by
  unfold installTick
  split <;> split <;> rfl

end SIMDCore

namespace TGNVertexProgram

variable {F : Type}

/-- A newly built program. -/
def initial [Zero F] [One F]
    (piccolos : Fin 16 → Option Nat)
    (psau : Nat)
    (systolicArrays feeders : Fin 16 → Option Nat) : TGNVertexProgram F where
  piccolos := piccolos
  psau := psau
  systolicArrays := systolicArrays
  feeders := feeders
  gruCells := fun _ => GRUCell.initial
  partialSumInputs := 0
  aggregatedMessage := 0
  prevHiddenState := 0
  newHiddenState := 0

/-- Broadcast one set of GRU weights to all cells. -/
def loadGruWeights (program : TGNVertexProgram F)
    (wR wZ wIn wHn : Weights F) : TGNVertexProgram F :=
  { program with
    gruCells := fun vault =>
      (program.gruCells vault).loadWeights wR wZ wIn wHn }

/-- Broadcast one set of GRU biases to all cells. -/
def loadGruBiases (program : TGNVertexProgram F)
    (bR bZ bIn bHn : Vec16 F) : TGNVertexProgram F :=
  { program with
    gruCells := fun vault =>
      (program.gruCells vault).loadBiases bR bZ bIn bHn }

/-- The current vertex is done. -/
def isDone (program : TGNVertexProgram F) : Bool :=
  decide (program.phase = .done)

/-- The statistics of the current vertex. -/
def getStats (program : TGNVertexProgram F) : VertexProgramStats where
  gatherCycles := program.gatherCycles
  computeCycles := program.computeCycles
  psauCycles := program.psauCycles
  loadHCycles := program.loadHCycles
  gruCycles := program.gruCycles
  totalCycles := program.totalCycles
  verticesDone := program.verticesDone

/-- Start a gather batch of one vault's controller for a new vertex. -/
def preloadOffsets
    (cfg : VertexProgramConfig)
    (controller : PiccoloGatherController) : PiccoloGatherController :=
  ((controller.resetForNewBatch cfg.numNeighbors.toNat).setBaseAddr
    cfg.vertexAddr).pushOffsets cfg.neighborOffsets

/-- Begin the two-phase program for a new target vertex. -/
def startVertex [Zero F]
    (program : TGNVertexProgram F)
    (store : Store F)
    (cfg : VertexProgramConfig) : TGNVertexProgram F × Store F :=
  ({ program with
      cfg := cfg
      phase := .genUpdateGather
      gatherCycles := 0
      computeCycles := 0
      psauCycles := 0
      loadHCycles := 0
      gruCycles := 0
      totalCycles := 0
      psauFlushCount := 0
      aggregatedMessage := 0
      prevHiddenState := 0
      newHiddenState := 0
      hLoadDone := false
      writebackReady := false },
    (List.finRange 16).foldl
      (fun store vault =>
        match program.piccolos vault with
        | none => store
        | some ref =>
            store.setPiccolo ref (preloadOffsets cfg (store.piccolos ref)))
      store)

/-- The closure returned by `make_load_h_callback`. -/
def deliverHidden (program : TGNVertexProgram F) (payload : Vec16 F) :
    TGNVertexProgram F :=
  { program with prevHiddenState := payload, hLoadDone := true }

section Gather

/-- Issue tick of one vault's controller: the store, the reads enqueued and
whether every controller so far is done. -/
def issueVault
    (program : TGNVertexProgram F)
    (state : Store F × List MemoryBurst × Bool)
    (vault : Fin 16) : Store F × List MemoryBurst × Bool :=
  match program.piccolos vault with
  | none => state
  | some ref =>
      let (store, reads, allDone) := state
      let (controller, read) := (store.piccolos ref).tickIssue ref
      (store.setPiccolo ref controller, reads ++ read.toList,
        allDone && controller.done)

/-- Take at most a given number of values from a data buffer. -/
def takeValues : Nat → PiccoloGatherController →
    List UInt32 × PiccoloGatherController
  | 0, controller => ([], controller)
  | count + 1, controller =>
      if controller.db.size = 0 then ([], controller) else
        let (rest, drained) := takeValues count controller.popDb
        (controller.db.front :: rest, drained)

/-- The values taken are the oldest ones. -/
theorem takeValues_fst (count : Nat) (controller : PiccoloGatherController) :
    (takeValues count controller).1 = controller.db.contents.take count := by
  induction count generalizing controller with
  | zero => rfl
  | succ count inductionHypothesis =>
      rw [takeValues]
      split
      case isTrue empty =>
        have noValues : controller.db.contents = [] := by
          rw [← List.length_eq_zero_iff, RingBuffer.length_contents, empty]
        rw [noValues, List.take_nil]
      case isFalse held =>
        rw [controller.db.contents_eq_front_cons held, List.take_succ_cons]
        exact congrArg (_ :: ·) (inductionHypothesis controller.popDb)

/-- Lanes of a gathered vector, zero beyond the values. -/
def gatheredVec [Zero F] (ops : FloatOps F) (values : List UInt32) :
    Vec16 F :=
  fun lane => (values.map ops.ofBits).getD lane.val 0

/-- Drain one vault's data buffer into its feeder. -/
def drainVault [Zero F]
    (ops : FloatOps F)
    (program : TGNVertexProgram F)
    (store : Store F)
    (vault : Fin 16) : Store F :=
  match program.feeders vault, program.piccolos vault with
  | some feederRef, some piccoloRef =>
      let (values, controller) := takeValues 16 (store.piccolos piccoloRef)
      let store := store.setPiccolo piccoloRef controller
      store.setFeeder feederRef
        ((store.feeders feederRef).pushVector (gatheredVec ops values))
  | _, _ => store

/-- GEN_UPDATE_GATHER: issue reads, and drain the values into the feeders once
every controller is done. -/
def tickGenUpdateGather [Zero F]
    (ops : FloatOps F)
    (program : TGNVertexProgram F)
    (store : Store F) : TGNVertexProgram F × Store F × List MemoryBurst :=
  let program := { program with gatherCycles := program.gatherCycles + 1 }
  let (store, reads, allDone) :=
    (List.finRange 16).foldl program.issueVault (store, [], true)
  if allDone then
    ({ program with computeCycles := 0, phase := .genUpdateCompute },
      (List.finRange 16).foldl (program.drainVault ops) store, reads)
  else (program, store, reads)

end Gather

section Compute

variable [Zero F] [Add F] [Mul F]

/-- Clock one vault's array through its feeder, dropping its outputs. -/
def clockVault
    (program : TGNVertexProgram F)
    (store : Store F)
    (vault : Fin 16) : Store F :=
  match program.systolicArrays vault, program.feeders vault with
  | some arrayRef, some feederRef =>
      let (acts, feeder) := (store.feeders feederRef).getNextActivations
      let store := store.setFeeder feederRef feeder
      store.setArray arrayRef ((store.arrays arrayRef).tick acts 0).2
  | _, _ => store

/-- GEN_UPDATE_COMPUTE: clock the arrays, and keep what they put out in the
sixteenth cycle. -/
def tickGenUpdateCompute
    (program : TGNVertexProgram F)
    (store : Store F)
    (saOutputs : Fin 16 → Vec16 F) : TGNVertexProgram F × Store F :=
  let program := { program with computeCycles := program.computeCycles + 1 }
  let store := (List.finRange 16).foldl program.clockVault store
  if 16 ≤ program.computeCycles then
    ({ program with
        partialSumInputs := saOutputs
        psauFlushCount := 0
        psauCycles := 0
        phase := .genUpdatePsauDrain }, store)
  else (program, store)

/-- Depth of the accumulation unit's pipeline. -/
def kPSAUDepth : Nat := 4

/-- Leave the drain with the vector the accumulation unit has output. -/
def acceptMessage (program : TGNVertexProgram F) (message : Vec16 F) :
    TGNVertexProgram F :=
  { program with
    aggregatedMessage := message
    hLoadDone := false
    loadHCycles := 0
    phase := .applyUpdateLoadH }

/-- GEN_UPDATE_PSAU_DRAIN: clock the accumulation unit until it has an output,
or for seven cycles. -/
def tickPsauDrain
    (program : TGNVertexProgram F)
    (store : Store F) : TGNVertexProgram F × Store F :=
  let program := { program with psauCycles := program.psauCycles + 1 }
  let inputValid := decide (program.psauFlushCount = 0)
  let (outputValid, psauOut, unit) :=
    (store.psaus program.psau).tick program.partialSumInputs inputValid
  let store := store.setPsau program.psau unit
  let program :=
    { program with psauFlushCount := program.psauFlushCount + 1 }
  if outputValid then (program.acceptMessage psauOut, store)
  else if kPSAUDepth + 2 < program.psauFlushCount then
    (program.acceptMessage psauOut, store)
  else (program, store)

/-- APPLY_UPDATE_LOAD_H: wait for the previous hidden state, then start the GRU
cells. -/
def tickLoadHiddenState (program : TGNVertexProgram F) :
    TGNVertexProgram F :=
  let program := { program with loadHCycles := program.loadHCycles + 1 }
  if program.hLoadDone then
    { program with
      gruCells := fun vault =>
        (program.gruCells vault).start program.prevHiddenState
          program.aggregatedMessage
      gruCycles := 0
      phase := .applyUpdateGru }
  else program

end Compute

section Gru

variable [Zero F] [One F] [Add F] [Sub F] [Mul F]

/-- GRU tick of one vault: the program, the store and the vaults done. -/
def gruVault
    (ops : FloatOps F)
    (state : TGNVertexProgram F × Store F × Nat)
    (vault : Fin 16) : TGNVertexProgram F × Store F × Nat :=
  let (program, store, doneCount) := state
  match program.systolicArrays vault, program.feeders vault with
  | some arrayRef, some feederRef =>
      if (program.gruCells vault).isDone then
        (program, store, doneCount + 1)
      else
        let after := GRUCell.tick ops
          ⟨program.gruCells vault, store.arrays arrayRef,
            store.feeders feederRef⟩
        ({ program with
            gruCells := Function.update program.gruCells vault after.cell },
          (store.setArray arrayRef after.sa).setFeeder feederRef after.feeder,
          if after.cell.isDone then doneCount + 1 else doneCount)
  | _, _ => (program, store, doneCount + 1)

/-- Average of the sixteen cells' results. -/
def averageHidden [Div F] [NatCast F] (cells : Fin 16 → GRUCell F) :
    Vec16 F :=
  (List.finRange 16).foldl
    (fun sum vault lane =>
      sum lane + (cells vault).hNew lane / ((16 : Nat) : F)) 0

/-- APPLY_UPDATE_GRU: tick the cells, and average their results once all are
done. -/
def tickGru [Div F] [NatCast F]
    (ops : FloatOps F)
    (program : TGNVertexProgram F)
    (store : Store F) : TGNVertexProgram F × Store F :=
  let program := { program with gruCycles := program.gruCycles + 1 }
  let (program, store, doneCount) :=
    (List.finRange 16).foldl (gruVault ops) (program, store, 0)
  if doneCount < 16 then (program, store) else
    ({ program with
        newHiddenState := averageHidden program.gruCells
        phase := .writeback }, store)

end Gru

/-- WRITEBACK: announce the result, and finish the vertex. -/
def tickWriteback (program : TGNVertexProgram F) : TGNVertexProgram F :=
  { program with
    writebackReady := true
    phase := .done
    verticesDone := program.verticesDone + 1 }

/-- `total_cycles_++`. -/
def countCycle (program : TGNVertexProgram F) : TGNVertexProgram F :=
  { program with totalCycles := program.totalCycles + 1 }

/-- Advance the program by one simulation cycle.  The reads returned are
enqueued on the controllers' ports; the source's return value is `isDone` of
the resulting program. -/
def tick [Zero F] [One F] [Add F] [Sub F] [Mul F] [Div F] [NatCast F]
    (ops : FloatOps F)
    (program : TGNVertexProgram F)
    (store : Store F)
    (saOutputs : Fin 16 → Vec16 F) :
    TGNVertexProgram F × Store F × List MemoryBurst :=
  let counted := program.countCycle
  match program.phase with
  | .idle => (program, store, [])
  | .done => (program, store, [])
  | .genUpdateGather => counted.tickGenUpdateGather ops store
  | .genUpdateCompute =>
      let (program, store) := counted.tickGenUpdateCompute store saOutputs
      (program, store, [])
  | .genUpdatePsauDrain =>
      let (program, store) := counted.tickPsauDrain store
      (program, store, [])
  | .applyUpdateLoadH => (counted.tickLoadHiddenState, store, [])
  | .applyUpdateGru =>
      let (program, store) := counted.tickGru ops store
      (program, store, [])
  | .writeback => (counted.tickWriteback, store, [])

/-! ## What a tick leaves alone -/

section Frame

variable {Observed : Type*} (observe : Store F → Observed)

/-- An observation of the store that no gather controller is part of. -/
def IgnoresPiccolos : Prop :=
  ∀ store ref controller,
    observe (store.setPiccolo ref controller) = observe store

/-- An observation of the store that no feeder is part of. -/
def IgnoresFeeders : Prop :=
  ∀ store ref feeder, observe (store.setFeeder ref feeder) = observe store

/-- An observation of the store that no array is part of. -/
def IgnoresArrays : Prop :=
  ∀ store ref array, observe (store.setArray ref array) = observe store

/-- An observation of the store that no accumulation unit is part of. -/
def IgnoresPsaus : Prop :=
  ∀ store ref unit, observe (store.setPsau ref unit) = observe store

variable (ops : FloatOps F) (program : TGNVertexProgram F) (store : Store F)
  (vaults : List (Fin 16))

theorem observe_startVertex
    [Zero F]
    (piccolos : IgnoresPiccolos observe)
    (cfg : VertexProgramConfig) :
    observe (program.startVertex store cfg).2 = observe store := by
  unfold startVertex
  apply Sweep.observe_foldl observe
  intro state vault
  split
  · rfl
  · apply piccolos

theorem observe_issueVaults
    (piccolos : IgnoresPiccolos observe)
    (state : Store F × List MemoryBurst × Bool) :
    observe (vaults.foldl program.issueVault state).1 = observe state.1 := by
  apply Sweep.observe_foldl
    (fun state : Store F × List MemoryBurst × Bool => observe state.1)
  intro state vault
  unfold issueVault
  split
  · rfl
  · apply piccolos

theorem observe_drainVaults
    [Zero F]
    (piccolos : IgnoresPiccolos observe)
    (feeders : IgnoresFeeders observe) :
    observe (vaults.foldl (drainVault ops program) store) = observe store := by
  apply Sweep.observe_foldl observe
  intro state vault
  unfold drainVault
  split
  · rw [feeders, piccolos]
  · rfl

theorem observe_clockVaults
    [Zero F]
    [Add F]
    [Mul F]
    (feeders : IgnoresFeeders observe)
    (arrays : IgnoresArrays observe) :
    observe (vaults.foldl program.clockVault store) = observe store := by
  apply Sweep.observe_foldl observe
  intro state vault
  unfold clockVault
  split
  · rw [arrays, feeders]
  · rfl

theorem observe_gruVaults
    [Zero F]
    [One F]
    [Add F]
    [Sub F]
    [Mul F]
    (feeders : IgnoresFeeders observe)
    (arrays : IgnoresArrays observe)
    (state : TGNVertexProgram F × Store F × Nat) :
    observe (vaults.foldl (gruVault ops) state).2.1 = observe state.2.1 := by
  apply Sweep.observe_foldl
    (fun state : TGNVertexProgram F × Store F × Nat => observe state.2.1)
  intro state vault
  unfold gruVault
  simp only
  split
  · split
    · rfl
    · rw [feeders, arrays]
  · rfl

theorem observe_tickGenUpdateGather
    [Zero F]
    (piccolos : IgnoresPiccolos observe)
    (feeders : IgnoresFeeders observe) :
    observe (program.tickGenUpdateGather ops store).2.1 = observe store := by
  unfold tickGenUpdateGather
  simp only
  split
  · rw [observe_drainVaults observe ops _ _ _ piccolos feeders,
      observe_issueVaults observe _ _ piccolos]
  · rw [observe_issueVaults observe _ _ piccolos]

theorem observe_tickGenUpdateCompute
    [Zero F]
    [Add F]
    [Mul F]
    (feeders : IgnoresFeeders observe)
    (arrays : IgnoresArrays observe)
    (saOutputs : Fin 16 → Vec16 F) :
    observe (program.tickGenUpdateCompute store saOutputs).2 =
      observe store := by
  unfold tickGenUpdateCompute
  simp only
  split
  · apply observe_clockVaults observe _ _ _ feeders arrays
  · apply observe_clockVaults observe _ _ _ feeders arrays

theorem observe_tickPsauDrain
    [Add F]
    (psaus : IgnoresPsaus observe) :
    observe (program.tickPsauDrain store).2 = observe store := by
  unfold tickPsauDrain
  simp only
  split
  · apply psaus
  · split
    · apply psaus
    · apply psaus

theorem observe_tickGru
    [Zero F]
    [One F]
    [Add F]
    [Sub F]
    [Mul F]
    [Div F]
    [NatCast F]
    (feeders : IgnoresFeeders observe)
    (arrays : IgnoresArrays observe) :
    observe (program.tickGru ops store).2 = observe store := by
  unfold tickGru
  simp only
  split
  · apply observe_gruVaults observe ops _ feeders arrays
  · apply observe_gruVaults observe ops _ feeders arrays

/-- The program hands nothing to a router by itself. -/
theorem routers_tick
    [Zero F]
    [One F]
    [Add F]
    [Sub F]
    [Mul F]
    [Div F]
    [NatCast F]
    (saOutputs : Fin 16 → Vec16 F) :
    (program.tick ops store saOutputs).2.1.routers = store.routers := by
  let observe := fun store : Store F => store.routers
  have piccolos : IgnoresPiccolos observe := fun _ _ _ => rfl
  have feeders : IgnoresFeeders observe := fun _ _ _ => rfl
  have arrays : IgnoresArrays observe := fun _ _ _ => rfl
  have psaus : IgnoresPsaus observe := fun _ _ _ => rfl
  unfold tick
  cases program.phase with
  | idle => rfl
  | done => rfl
  | genUpdateGather =>
      exact observe_tickGenUpdateGather observe ops _ store piccolos feeders
  | genUpdateCompute =>
      exact observe_tickGenUpdateCompute observe _ store feeders arrays
        saOutputs
  | genUpdatePsauDrain => exact observe_tickPsauDrain observe _ store psaus
  | applyUpdateLoadH => rfl
  | applyUpdateGru => exact observe_tickGru observe ops _ store feeders arrays
  | writeback => rfl

end Frame

/-! ## The phases -/

/-- What decides about the write-back of a vertex. -/
structure Status where
  phase : VertexProgramPhase
  writebackReady : Bool
  cfg : VertexProgramConfig
  deriving DecidableEq, Repr

/-- The status of a program. -/
def status (program : TGNVertexProgram F) : Status :=
  ⟨program.phase, program.writebackReady, program.cfg⟩

/-- Started on a vertex and not yet done with it. -/
def Status.Running (status : Status) : Prop :=
  status.phase ≠ .idle ∧ status.phase ≠ .done ∧
    status.writebackReady = false

/-- Done with a vertex, whose result is ready to be written back. -/
def Status.Finished (status : Status) : Prop :=
  status.phase = .done ∧ status.writebackReady = true

/-- Starting a vertex gets the program running. -/
theorem running_startVertex
    [Zero F]
    (program : TGNVertexProgram F)
    (store : Store F)
    (cfg : VertexProgramConfig) :
    (program.startVertex store cfg).1.status.Running :=
  ⟨by simp [startVertex, status], by simp [startVertex, status], rfl⟩

/-- A vertex goes on: neither its configuration nor its readiness changes. -/
structure Status.Proceeds (before after : Status) : Prop where
  notIdle : after.phase ≠ .idle
  notDone : after.phase ≠ .done
  ready : after.writebackReady = before.writebackReady
  cfg : after.cfg = before.cfg

theorem status_gruVault
    [Zero F]
    [One F]
    [Add F]
    [Sub F]
    [Mul F]
    (ops : FloatOps F)
    (state : TGNVertexProgram F × Store F × Nat)
    (vault : Fin 16) :
    (gruVault ops state vault).1.status = state.1.status := by
  unfold gruVault
  simp only
  split
  · split <;> rfl
  · rfl

section Proceed

variable (ops : FloatOps F) (program : TGNVertexProgram F) (store : Store F)

theorem proceeds_tickGenUpdateGather
    [Zero F]
    (gathering : program.phase = .genUpdateGather) :
    program.status.Proceeds
      (program.tickGenUpdateGather ops store).1.status := by
  unfold tickGenUpdateGather
  simp only
  split
  · exact ⟨by simp [status], by simp [status], rfl, rfl⟩
  · exact ⟨by simp [status, gathering], by simp [status, gathering], rfl, rfl⟩

theorem proceeds_tickGenUpdateCompute
    [Zero F]
    [Add F]
    [Mul F]
    (computing : program.phase = .genUpdateCompute)
    (saOutputs : Fin 16 → Vec16 F) :
    program.status.Proceeds
      (program.tickGenUpdateCompute store saOutputs).1.status := by
  unfold tickGenUpdateCompute
  simp only
  split
  · exact ⟨by simp [status], by simp [status], rfl, rfl⟩
  · exact ⟨by simp [status, computing], by simp [status, computing], rfl, rfl⟩

theorem proceeds_tickPsauDrain
    [Add F]
    (draining : program.phase = .genUpdatePsauDrain) :
    program.status.Proceeds (program.tickPsauDrain store).1.status := by
  unfold tickPsauDrain
  simp only
  split
  · exact ⟨by simp [status, acceptMessage], by simp [status, acceptMessage],
      rfl, rfl⟩
  · split
    · exact ⟨by simp [status, acceptMessage], by simp [status, acceptMessage],
        rfl, rfl⟩
    · exact ⟨by simp [status, draining], by simp [status, draining], rfl, rfl⟩

theorem proceeds_tickLoadHiddenState
    [Zero F]
    (loading : program.phase = .applyUpdateLoadH) :
    program.status.Proceeds program.tickLoadHiddenState.status := by
  unfold tickLoadHiddenState
  simp only
  split
  · exact ⟨by simp [status], by simp [status], rfl, rfl⟩
  · exact ⟨by simp [status, loading], by simp [status, loading], rfl, rfl⟩

theorem proceeds_tickGru
    [Zero F]
    [One F]
    [Add F]
    [Sub F]
    [Mul F]
    [Div F]
    [NatCast F]
    (updating : program.phase = .applyUpdateGru) :
    program.status.Proceeds (program.tickGru ops store).1.status := by
  have ticked (counted : TGNVertexProgram F) :
      ((List.finRange 16).foldl (gruVault ops)
        (counted, store, 0)).1.status = counted.status :=
    Sweep.observe_foldl
      (fun state : TGNVertexProgram F × Store F × Nat => state.1.status)
      (status_gruVault ops) _ _
  have same := ticked { program with gruCycles := program.gruCycles + 1 }
  have phase := congrArg Status.phase same
  have ready := congrArg Status.writebackReady same
  have cfg := congrArg Status.cfg same
  unfold tickGru
  simp only
  split
  · refine ⟨?_, ?_, ready, cfg⟩
    · exact fun idle => by simpa [status, updating] using phase.symm.trans idle
    · exact fun done => by simpa [status, updating] using phase.symm.trans done
  · exact ⟨by simp [status], by simp [status], ready, cfg⟩

theorem phase_tickGru
    [Zero F]
    [One F]
    [Add F]
    [Sub F]
    [Mul F]
    [Div F]
    [NatCast F]
    (updating : program.phase = .applyUpdateGru) :
    (program.tickGru ops store).1.phase = .applyUpdateGru ∨
      (program.tickGru ops store).1.phase = .writeback := by
  have kept (counted : TGNVertexProgram F) :
      ((List.finRange 16).foldl (gruVault ops)
        (counted, store, 0)).1.phase = counted.phase := by
    apply Sweep.observe_foldl
      (fun state : TGNVertexProgram F × Store F × Nat => state.1.phase)
    intro state vault
    exact congrArg Status.phase (status_gruVault ops state vault)
  unfold tickGru
  simp only
  split
  · exact Or.inl ((kept _).trans updating)
  · exact Or.inr rfl

variable [Zero F] [One F] [Add F] [Sub F] [Mul F] [Div F] [NatCast F]
variable (saOutputs : Fin 16 → Vec16 F)

/-- Before its last phase a vertex goes on. -/
theorem proceeds_tick
    (running : program.status.Running)
    (notLast : program.phase ≠ .writeback) :
    program.status.Proceeds (program.tick ops store saOutputs).1.status := by
  obtain ⟨notIdle, notDone, _⟩ := running
  unfold tick
  cases phase : program.phase with
  | idle => exact absurd phase notIdle
  | done => exact absurd phase notDone
  | writeback => exact absurd phase notLast
  | genUpdateGather =>
      exact proceeds_tickGenUpdateGather ops program.countCycle store phase
  | genUpdateCompute =>
      exact proceeds_tickGenUpdateCompute program.countCycle store phase
        saOutputs
  | genUpdatePsauDrain =>
      exact proceeds_tickPsauDrain program.countCycle store phase
  | applyUpdateLoadH =>
      exact proceeds_tickLoadHiddenState program.countCycle phase
  | applyUpdateGru => exact proceeds_tickGru ops program.countCycle store phase

/-- The last phase makes the result ready and is done. -/
theorem status_tick_of_writeback (last : program.phase = .writeback) :
    (program.tick ops store saOutputs).1.status =
      { program.status with phase := .done, writebackReady := true } := by
  simp [tick, last, tickWriteback, status, countCycle]

/-- A program that is done stays as it is. -/
theorem tick_of_done (finished : program.phase = .done) :
    program.tick ops store saOutputs = (program, store, []) := by
  simp [tick, finished]

/-- Between the request for the hidden state and the end of the write-back. -/
def Updating (program : TGNVertexProgram F) : Prop :=
  program.phase = .applyUpdateLoadH ∨ program.phase = .applyUpdateGru ∨
    program.phase = .writeback

/-- A program that is updating goes on, or its result becomes ready. -/
theorem updating_tick (updating : program.Updating) :
    (program.tick ops store saOutputs).1.Updating ∨
      (program.tick ops store saOutputs).1.writebackReady = true := by
  rcases updating with loading | gru | writeback
  · left
    cases hLoadDone : program.hLoadDone with
    | false =>
        exact Or.inl (by
          simp [tick, loading, tickLoadHiddenState, countCycle, hLoadDone])
    | true =>
        exact Or.inr (Or.inl (by
          simp [tick, loading, tickLoadHiddenState, countCycle, hLoadDone]))
  · have phase := phase_tickGru ops program.countCycle store gru
    left
    right
    unfold tick
    rw [gru]
    exact phase
  · exact Or.inr (by simp [tick, writeback, tickWriteback])

/-- Past the phase that waits for the hidden state: updating, writing back or
without a vertex. -/
def BeyondLoad (program : TGNVertexProgram F) : Prop :=
  program.phase = .applyUpdateGru ∨ program.phase = .writeback ∨
    program.phase = .done ∨ program.phase = .idle

/-- Done waiting for the hidden state. -/
def HiddenLoaded (program : TGNVertexProgram F) : Prop :=
  program.BeyondLoad ∨
    (program.phase = .applyUpdateLoadH ∧ program.hLoadDone = true)

/-- Once its hidden state is there, a program never waits for it again. -/
theorem beyondLoad_tick (loaded : program.HiddenLoaded) :
    (program.tick ops store saOutputs).1.BeyondLoad := by
  rcases loaded with (gru | writeback | done | idle) | ⟨loading, hLoadDone⟩
  · have phase := phase_tickGru ops program.countCycle store gru
    unfold tick
    rw [gru]
    exact phase.imp_right Or.inl
  · exact Or.inr (Or.inr (Or.inl (by simp [tick, writeback, tickWriteback])))
  · exact Or.inr (Or.inr (Or.inl (by simp [tick, done])))
  · exact Or.inr (Or.inr (Or.inr (by simp [tick, idle])))
  · exact Or.inl (by
      simp [tick, loading, tickLoadHiddenState, countCycle, hLoadDone])

end Proceed

end TGNVertexProgram

/-- A store of newly built objects: cores without a program, a router on a
1 GHz clock, empty gather batches and idle vertex programs of no vaults. -/
def Store.initial {F : Type} [Zero F] [One F] : Store F where
  cores := fun _ => SIMDCore.initial 0 0 0 0 256
  feeders := fun _ => ArrayFeeder.initial
  arrays := fun _ => SystolicArray.initial
  psaus := fun _ => PartialSumAccumulationUnit.initial
  routers := fun _ => HierarchicalRouter.initial 1000000000
  piccolos := fun _ =>
    { pcId := 0, baseAddr := 0, elemBytes := 4, numElems := 0 }
  programs := fun _ =>
    TGNVertexProgram.initial (fun _ => none) 0 (fun _ => none) fun _ => none

end PimGraphs
