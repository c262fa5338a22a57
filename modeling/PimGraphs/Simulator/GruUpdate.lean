import Mathlib.Data.List.TakeWhile
import PimGraphs.Compute.GatherOrder
import PimGraphs.Compute.SharedGru
import PimGraphs.Compute.StallState
import PimGraphs.Simulator.Isolation

/-!
# GRU_UPDATE in the simulator loop

While a core waits for its GRU cell, every cycle ticks the cell on the vault's
feeder and array and then clocks the same feeder and array once more.  So the
evaluation is the one on shared hardware, and what is written back agrees with
an evaluation on hardware of its own only where the products do not matter.
-/

namespace PimGraphs

namespace Registers

variable {F : Type}

/-- The sixteen values at consecutive registers, zero outside the file. -/
def lanes [Zero F] (registers : Registers F) (base : UInt32) : Vec16 F :=
  fun offset => registers.read (lane base offset.val)

theorem foldl_writeInt_finRange
    (registers : Registers F)
    (base : Int)
    (values : Vec16 F) :
    (List.finRange 16).foldl
        (fun registers lane => registers.writeInt (base + lane.val)
          (values lane)) registers =
      registers.writeLanes base (List.ofFn values) := by
  rfl

end Registers

namespace SIMDCore

variable {F : Type}

/-- The core while its GRU cell is evaluating. -/
def updating
    (core : SIMDCore F)
    (inst : SIMDInstruction)
    (cell : GRUCell F) : SIMDCore F :=
  { core.popInstruction with
    gruCell := cell
    pendingDestReg := toInt32 inst.destReg.toNat
    isStalled := true
    isWaitingForGru := true }

variable [Zero F] [One F] [Add F] [Sub F] [Mul F] [Div F] [NatCast F]

/-- The core after its GRU cell has finished. -/
def updated
    (core : SIMDCore F)
    (inst : SIMDInstruction)
    (cell : GRUCell F) : SIMDCore F :=
  { core.updating inst cell with
    registers := (core.updating inst cell).writeBackGru cell.hNew
    isStalled := false
    isWaitingForGru := false
    pendingDestReg := -1
    gruSa := none
    gruFeeder := none }

variable (ops : FloatOps F) (this : Nat) {core : SIMDCore F}
  {inst : SIMDInstruction} (piccolo : PiccoloGatherController)
  (sa : SystolicArray F) (feeder : ArrayFeeder F)

/-- GRU_UPDATE starts the cell. -/
theorem tick_gruUpdate
    (running : core.isStalled = false)
    (head : core.instructionQueue.head? = some inst)
    (op : inst.op = .gruUpdate) :
    core.tick ops this piccolo (some (sa, feeder)) =
      { core := core.updating inst (core.gruCell.start
          (core.registers.lanes inst.src1Reg)
          (core.registers.lanes inst.src2Reg))
        piccolo := piccolo
        gruHardware := some (sa, feeder) } := by
  rw [tick_of_head ops this core piccolo _ running head]
  simp only [issue, op]
  rfl

/-- A waiting core ticks its cell. -/
theorem tick_updating
    (notGathering : core.isWaitingForPiccolo = false)
    (cell : GRUCell F)
    {after : GRUCell.Borrowed F}
    (ticked : GRUCell.tick ops ⟨cell, sa, feeder⟩ = after) :
    (core.updating inst cell).tick ops this piccolo (some (sa, feeder)) =
      { core := if after.cell.isDone then core.updated inst after.cell
          else core.updating inst after.cell
        piccolo := piccolo
        gruHardware := some (after.sa, after.feeder) } := by
  have gathering : (core.updating inst cell).isWaitingForPiccolo = false :=
    notGathering
  have waits : (core.updating inst cell).isStalled = true ∧
      (core.updating inst cell).isWaitingForGru = true := ⟨rfl, rfl⟩
  have itsCell : (core.updating inst cell).gruCell = cell := rfl
  simp only [tick, gathering, waits, Bool.and_false, Bool.and_true,
    Bool.false_eq_true, if_false, if_true, tickGruWait, itsCell, ticked]
  cases ready : after.cell.isDone with
  | false =>
      simp only [Bool.false_eq_true, if_false, updating, popInstruction,
        notGathering]
  | true =>
      simp only [if_true, updated, updating, popInstruction, notGathering]

omit [One F] [Add F] [Sub F] [Mul F] [Div F] [NatCast F] in
/-- With the destination in range, the write-back stores all lanes. -/
theorem read_updated
    {numRegisters : UInt32}
    (size : core.registers.length = numRegisters.toNat)
    (inRange : SIMDInstruction.InRange numRegisters inst.destReg 16)
    (cell : GRUCell F)
    (lane : Fin 16) :
    (core.updated inst cell).registers.read (inst.destReg.toNat + lane.val) =
      cell.hNew lane := by
  obtain ⟨small, inside⟩ := inRange.bounds
  have dest : toInt32 inst.destReg.toNat = inst.destReg.toNat :=
    toInt32_of_lt (by omega)
  have length : toInt32 core.registers.length = core.registers.length :=
    toInt32_of_lt (by omega)
  have allLanes : (List.finRange 16).takeWhile (fun i =>
      decide ((core.updating inst cell).pendingDestReg + i.val <
        toInt32 (core.updating inst cell).registers.length)) =
      List.finRange 16 := by
    refine List.takeWhile_eq_self_iff.mpr fun other _ => ?_
    have bound := other.isLt
    simp only [updating, popInstruction, dest, length, decide_eq_true_eq]
    omega
  have written : (core.updated inst cell).registers =
      core.registers.writeLanes inst.destReg.toNat
        (List.ofFn cell.hNew) := by
    rw [← Registers.foldl_writeInt_finRange]
    simp only [updated, writeBackGru, allLanes]
    simp only [updating, popInstruction, dest]
  have held := Registers.getElem?_writeLanes_add core.registers
    inst.destReg.toNat lane.val (List.ofFn cell.hNew)
    (by rw [List.length_ofFn]; exact lane.isLt)
    (by have bound := lane.isLt; omega)
  rw [List.getElem?_ofFn, dif_pos lane.isLt] at held
  rw [written, Registers.read, List.getD_eq_getElem?_getD, held]
  rfl

end SIMDCore

namespace RunState

variable {F M : Type} [Field F] {config : RunConfig F M} {place : Place}
variable {state : RunState F M}

/-! ## The vault's own turn -/

section Turn

variable {core next : SIMDCore F} {sa sa' : SystolicArray F}
  {feeder feeder' : ArrayFeeder F}
  (hasArray : core.gruSa = some place.array)
  (hasFeeder : core.gruFeeder = some place.feeder)
  (ticked : ∀ piccolo,
    core.tick config.ops place.core piccolo (some (sa, feeder)) =
      { core := next, piccolo := piccolo,
        gruHardware := some (sa', feeder') })
include hasArray hasFeeder ticked

/-- The core's tick, which hands nothing to its router. -/
theorem tickCore_own
    (isolated : state.Isolated config place)
    (hardware : place.hardware state.store = (core, sa, feeder)) :
    (state.tickCore config place.core).Isolated config place ∧
      place.hardware (state.tickCore config place.core).store =
        (next, sa', feeder') := by
  obtain ⟨isCore, isHardware⟩ := Prod.mk.inj hardware
  obtain ⟨isArray, isFeeder⟩ := Prod.mk.inj isHardware
  have lent : core.lentHardware state.store = some (sa, feeder) := by
    simp only [SIMDCore.lentHardware, hasArray, hasFeeder, isArray, isFeeder]
  let store : Store F :=
    (((state.store.setCore place.core next).setPiccolo core.piccolo
      (state.store.piccolos core.piccolo)).setArray place.array
        sa').setFeeder place.feeder feeder'
  have coreTicked : state.tickCore config place.core =
      ({ state with store := store } : RunState F M).route core.router
        (.vpu place.core) [] := by
    simp only [tickCore, isCore, lent, ticked, SIMDCore.installTick, hasArray,
      hasFeeder]
    rfl
  have quiet : Quiet place.core (store.routers, state.driver) :=
    isolated.quiet
  rw [coreTicked]
  refine ⟨⟨?_, isolated.program, quiet.route core.router (.vpu place.core)
    (List.forall_mem_nil _)⟩, ?_⟩
  · intro vault ref isAttached notOwn
    have avoids := isolated.cores vault ref isAttached notOwn
    simpa [route, Store.setRouter, store, Store.setFeeder, Store.setArray,
      Store.setPiccolo, Store.setCore, Function.update_of_ne notOwn] using
      avoids
  · simp [Place.hardware, route, Store.setRouter, store, Store.setFeeder,
      Store.setArray, Store.setPiccolo, Store.setCore]

/-- After the core's tick its feeder and array are clocked, lent or not. -/
theorem turn_own
    (owns : config.attached.Owns place)
    (isolated : state.Isolated config place)
    (hardware : place.hardware state.store = (core, sa, feeder))
    (inputs : TreeInputs F) :
    (tickVault config (state, inputs) place.vault).1.Isolated config place ∧
      place.hardware (tickVault config (state, inputs) place.vault).1.store =
        (next, (⟨feeder', sa'⟩ : Datapath F).tick.2.sa,
          (⟨feeder', sa'⟩ : Datapath F).tick.2.feeder) := by
  obtain ⟨afterIsolated, after⟩ :=
    tickCore_own hasArray hasFeeder ticked isolated hardware
  obtain ⟨isCore, isHardware⟩ := Prod.mk.inj after
  obtain ⟨isArray, isFeeder⟩ := Prod.mk.inj isHardware
  have turned : (tickVault config (state, inputs) place.vault).1 =
      { state.tickCore config place.core with
        store := ((state.tickCore config place.core).store.setFeeder
          place.feeder (⟨feeder', sa'⟩ : Datapath F).tick.2.feeder).setArray
            place.array (⟨feeder', sa'⟩ : Datapath F).tick.2.sa } := by
    simp only [tickVault, owns.core, owns.feeder, owns.array,
      Store.setFeeder, isFeeder, isArray]
    rfl
  rw [turned]
  refine ⟨⟨afterIsolated.cores, afterIsolated.program,
    afterIsolated.quiet⟩, ?_⟩
  simp [Place.hardware, Store.setArray, Store.setFeeder, isCore]

/-- In a cycle the borrowed feeder and array are clocked once more after the
core's tick. -/
theorem cycle_own
    (owns : config.attached.Owns place)
    (isolated : state.Isolated config place)
    (hardware : place.hardware state.store = (core, sa, feeder)) :
    (state.cycle config).Isolated config place ∧
      place.hardware (state.cycle config).store =
        (next, (⟨feeder', sa'⟩ : Datapath F).tick.2.sa,
          (⟨feeder', sa'⟩ : Datapath F).tick.2.feeder) := by
  obtain ⟨before, inputs, earlier, later⟩ := exists_turn isolated owns
  have own := turn_own hasArray hasFeeder ticked owns earlier.isolated
    (earlier.hardware.trans hardware) inputs
  have rest := later own.1
  exact ⟨rest.isolated, rest.hardware.trans own.2⟩

end Turn

/-! ## An evaluation -/

/-- A core at a vault of its own is about to execute GRU_UPDATE. -/
structure ExecutesGruUpdate
    (config : RunConfig F M)
    (place : Place)
    (inst : SIMDInstruction)
    (numRegisters : UInt32)
    (state : RunState F M) : Prop where
  owns : config.attached.Owns place
  isolated : state.Isolated config place
  free : (state.store.cores place.core).stall = .free
  head : (state.store.cores place.core).instructionQueue.head? = some inst
  op : inst.op = .gruUpdate
  gruSa : (state.store.cores place.core).gruSa = some place.array
  gruFeeder : (state.store.cores place.core).gruFeeder = some place.feeder
  empty : (state.store.feeders place.feeder).isEmpty = true
  size : (state.store.cores place.core).registers.length =
    numRegisters.toNat
  inRange : SIMDInstruction.InRange numRegisters inst.destReg 16

/-- The evaluation that GRU_UPDATE starts, on what the place refers to. -/
def startedEvaluation
    (place : Place)
    (inst : SIMDInstruction)
    (state : RunState F M) : GRUCell.Borrowed F where
  cell := (state.store.cores place.core).gruCell.start
    ((state.store.cores place.core).registers.lanes inst.src1Reg)
    ((state.store.cores place.core).registers.lanes inst.src2Reg)
  sa := state.store.arrays place.array
  feeder := state.store.feeders place.feeder

/-- A cycle of the wait is a tick of the cell on shared hardware. -/
theorem cycle_updating
    (owns : config.attached.Owns place)
    (isolated : state.Isolated config place)
    {core : SIMDCore F}
    {inst : SIMDInstruction}
    {evaluation : GRUCell.Borrowed F}
    (hardware : place.hardware state.store =
      (core.updating inst evaluation.cell, evaluation.sa, evaluation.feeder))
    (notGathering : core.isWaitingForPiccolo = false)
    (hasArray : core.gruSa = some place.array)
    (hasFeeder : core.gruFeeder = some place.feeder)
    {after : GRUCell.Borrowed F}
    (ticked : GRUCell.sharedTick config.ops evaluation = after) :
    (state.cycle config).Isolated config place ∧
      place.hardware (state.cycle config).store =
        (if after.cell.isDone then core.updated inst after.cell
          else core.updating inst after.cell, after.sa, after.feeder) := by
  subst ticked
  have stillArray : (core.updating inst evaluation.cell).gruSa =
      some place.array := hasArray
  have stillFeeder : (core.updating inst evaluation.cell).gruFeeder =
      some place.feeder := hasFeeder
  refine cycle_own stillArray stillFeeder (fun piccolo => ?_) owns isolated
    hardware
  exact SIMDCore.tick_updating config.ops place.core piccolo evaluation.sa
    evaluation.feeder notGathering evaluation.cell rfl

namespace ExecutesGruUpdate

variable {inst : SIMDInstruction} {numRegisters : UInt32}
  (executes : ExecutesGruUpdate config place inst numRegisters state)
include executes

/-- The evaluation takes 137 ticks on shared hardware. -/
theorem evaluation :
    (∀ ticks, ticks < 137 →
      ((GRUCell.sharedTick config.ops)^[ticks] (GRUCell.clockBorrowed
        (startedEvaluation place inst state))).cell.isDone = false) ∧
    ((GRUCell.sharedTick config.ops)^[137] (GRUCell.clockBorrowed
      (startedEvaluation place inst state))).cell.isDone = true ∧
    ((GRUCell.sharedTick config.ops)^[137] (GRUCell.clockBorrowed
      (startedEvaluation place inst state))).cell.hNew =
      GRUCell.sharedResult config.ops (state.store.cores place.core).gruCell
        ((state.store.cores place.core).registers.lanes inst.src1Reg)
        ((state.store.cores place.core).registers.lanes inst.src2Reg) := by
  let path : Datapath F :=
    ⟨state.store.feeders place.feeder, state.store.arrays place.array⟩
  have empty : ∀ row, path.tick.2.feeder.delayLines row = [] := by
    intro row
    have before := ArrayFeeder.delayLines_of_isEmpty executes.empty row
    simp only [path, Datapath.tick, ArrayFeeder.getNextActivations, before,
      List.tail_nil]
  have clocked : GRUCell.clockBorrowed (startedEvaluation place inst state) =
      ⟨(state.store.cores place.core).gruCell.start
        ((state.store.cores place.core).registers.lanes inst.src1Reg)
        ((state.store.cores place.core).registers.lanes inst.src2Reg),
        path.tick.2.sa, path.tick.2.feeder⟩ := rfl
  rw [clocked]
  exact GRUCell.iterate_sharedEvaluation config.ops _ _ _ _ empty

/-- During the evaluation the core waits. -/
theorem iterate_cycle {ticks : Nat} (early : ticks < 137) :
    ((cycle config)^[ticks + 1] state).Isolated config place ∧
      place.hardware ((cycle config)^[ticks + 1] state).store =
        ((state.store.cores place.core).updating inst
            ((GRUCell.sharedTick config.ops)^[ticks] (GRUCell.clockBorrowed
              (startedEvaluation place inst state))).cell,
          ((GRUCell.sharedTick config.ops)^[ticks] (GRUCell.clockBorrowed
            (startedEvaluation place inst state))).sa,
          ((GRUCell.sharedTick config.ops)^[ticks] (GRUCell.clockBorrowed
            (startedEvaluation place inst state))).feeder) := by
  have running : (state.store.cores place.core).isStalled = false :=
    congrArg StallState.isStalled executes.free
  have notGathering :
      (state.store.cores place.core).isWaitingForPiccolo = false :=
    congrArg StallState.isWaitingForPiccolo executes.free
  induction ticks with
  | zero =>
      refine cycle_own executes.gruSa executes.gruFeeder (fun piccolo => ?_)
        executes.owns executes.isolated rfl
      exact SIMDCore.tick_gruUpdate config.ops place.core piccolo _ _ running
        executes.head executes.op
  | succ ticks inductionHypothesis =>
      obtain ⟨isolated, hardware⟩ :=
        inductionHypothesis (Nat.lt_of_succ_lt early)
      have stillRunning := (executes.evaluation).1 (ticks + 1) early
      have next := cycle_updating executes.owns isolated hardware
        notGathering executes.gruSa executes.gruFeeder rfl
      rw [← Function.iterate_succ_apply' (cycle config),
        ← Function.iterate_succ_apply' (GRUCell.sharedTick config.ops),
        stillRunning] at next
      exact next

/-- Then it writes the result back. -/
theorem iterate_cycle_last :
    ((cycle config)^[138] state).store.cores place.core =
      (state.store.cores place.core).updated inst
        ((GRUCell.sharedTick config.ops)^[137] (GRUCell.clockBorrowed
          (startedEvaluation place inst state))).cell := by
  obtain ⟨isolated, hardware⟩ :=
    executes.iterate_cycle (show 136 < 137 by decide)
  have finished := executes.evaluation.2.1
  obtain ⟨-, last⟩ := cycle_updating executes.owns isolated hardware
    (congrArg StallState.isWaitingForPiccolo executes.free) executes.gruSa
    executes.gruFeeder rfl
  rw [← Function.iterate_succ_apply' (cycle config),
    ← Function.iterate_succ_apply' (GRUCell.sharedTick config.ops),
    finished] at last
  exact congrArg Prod.fst last

theorem isStalled_iterate_cycle
    {cycles : Nat}
    (started : 0 < cycles)
    (early : cycles < 138) :
    (((cycle config)^[cycles] state).store.cores place.core).isStalled =
      true := by
  obtain ⟨ticks, rfl⟩ := Nat.exists_eq_succ_of_ne_zero started.ne'
  obtain ⟨-, hardware⟩ :=
    executes.iterate_cycle (Nat.lt_of_succ_lt_succ early)
  have core : ((cycle config)^[ticks + 1] state).store.cores place.core = _ :=
    congrArg Prod.fst hardware
  rw [core]
  rfl

/-- The loop goes on until the core has its result. -/
theorem loop_eq_iterate {cycles : Nat} (bound : cycles ≤ 138) :
    state.loop config cycles = (cycle config)^[cycles] state := by
  refine loop_of_working config fun earlier before => ?_
  have busy : (((cycle config)^[earlier] state).store.cores
      place.core).isDone = false := by
    rcases Nat.eq_zero_or_pos earlier with first | later
    · subst first
      obtain ⟨rest, queue⟩ := List.head?_eq_some_iff.mp executes.head
      rw [Function.iterate_zero_apply, SIMDCore.isDone, queue]
      rfl
    · rw [SIMDCore.isDone,
        executes.isStalled_iterate_cycle later (by omega)]
      exact Bool.and_false _
  have vpus : ((cycle config)^[earlier] state).vpuBusy config = true := by
    refine List.any_eq_true.mpr ⟨place.vault, List.mem_finRange _, ?_⟩
    rw [executes.owns.core]
    simp only [busy, Bool.not_false]
  rw [hasWork, vpus]
  rfl

end ExecutesGruUpdate

/-- When the stall of the core ends, consecutive registers hold the values. -/
def WritesBack
    (config : RunConfig F M)
    (state : RunState F M)
    (core : Nat)
    (destReg : UInt32)
    (values : Vec16 F) : Prop :=
  ∃ cycles, 0 < cycles ∧
    (∀ earlier, 0 < earlier → earlier < cycles →
      ((state.loop config earlier).store.cores core).isStalled = true) ∧
    ((state.loop config cycles).store.cores core).isStalled = false ∧
    ∀ lane : Fin 16,
      ((state.loop config cycles).store.cores core).registers.read
        (destReg.toNat + lane.val) = values lane

theorem WritesBack.unique
    {core : Nat}
    {destReg : UInt32}
    {first second : Vec16 F}
    (one : WritesBack config state core destReg first)
    (other : WritesBack config state core destReg second) :
    first = second := by
  obtain ⟨cycles, started, stalled, ended, written⟩ := one
  obtain ⟨moreCycles, alsoStarted, stillStalled, alsoEnded, alsoWritten⟩ :=
    other
  have same : cycles = moreCycles := by
    rcases Nat.lt_trichotomy cycles moreCycles with less | same | more
    · rw [stillStalled cycles started less] at ended
      contradiction
    · exact same
    · rw [stalled moreCycles alsoStarted more] at alsoEnded
      contradiction
  subst same
  funext lane
  rw [← written lane, alsoWritten lane]

/-- GRU_UPDATE writes back what an evaluation on shared hardware computes. -/
theorem ExecutesGruUpdate.writesBack
    {inst : SIMDInstruction}
    {numRegisters : UInt32}
    (executes : ExecutesGruUpdate config place inst numRegisters state) :
    WritesBack config state place.core inst.destReg
      (GRUCell.sharedResult config.ops (state.store.cores place.core).gruCell
        ((state.store.cores place.core).registers.lanes inst.src1Reg)
        ((state.store.cores place.core).registers.lanes inst.src2Reg)) := by
  have last := executes.iterate_cycle_last
  refine ⟨138, by decide, ?_, ?_, ?_⟩
  · intro earlier started early
    rw [executes.loop_eq_iterate early.le]
    exact executes.isStalled_iterate_cycle started early
  · rw [executes.loop_eq_iterate le_rfl, last]
    rfl
  · intro lane
    rw [executes.loop_eq_iterate le_rfl, last,
      SIMDCore.read_updated executes.size executes.inRange,
      executes.evaluation.2.2]

section Agreement

variable {inst : SIMDInstruction} {numRegisters : UInt32}
  (executes : ExecutesGruUpdate config place inst numRegisters state)
include executes

omit [Field F] in
/-- The activation functions do not matter for where the core stands. -/
theorem ExecutesGruUpdate.withActivations (sigmoid tanh : F → F) :
    ExecutesGruUpdate
      { config with ops := config.ops.withActivations sigmoid tanh } place
      inst numRegisters state :=
  ⟨executes.owns, ⟨executes.isolated.cores, executes.isolated.program,
    executes.isolated.quiet⟩, executes.free, executes.head, executes.op,
    executes.gruSa, executes.gruFeeder, executes.empty, executes.size,
    executes.inRange⟩

end Agreement

end RunState

namespace RamulatorHbmSimulator

end RamulatorHbmSimulator

end PimGraphs
