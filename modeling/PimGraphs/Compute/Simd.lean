import PimGraphs.Compute.Gru
import PimGraphs.Memory.Piccolo

/-!
# The SIMD core

An in-order core with a register file and an instruction queue.  LOAD, GATHER
and GRU_UPDATE stall it; a memory reply, the gather controller or the GRU cell
releases it.  A tick works on the core, on the controller it refers to and on
the array and feeder lent to its GRU cell, and returns the vector it pushes to
its feeder and the burst it hands to its router.

Registers are indexed by the 32-bit operands of an instruction; an access that
the source leaves undefined reads zero and writes nothing.  A statement that
depends on such accesses asks for the registers accessed besides.
-/

namespace PimGraphs

/-- Instructions of the core. -/
inductive SIMDOpcode
  | nop
  | load
  | store
  | addVec
  | mulVec
  | pushArr
  | gather
  | sigmoid
  | tanh
  | hadamard
  | timeEncode
  | gruUpdate
  deriving DecidableEq, Repr

/-- An instruction: its registers, and the address and size of its memory access. -/
structure SIMDInstruction where
  op : SIMDOpcode := .nop
  destReg : UInt32 := 0
  src1Reg : UInt32 := 0
  src2Reg : UInt32 := 0
  memAddr : UInt64 := 0
  sizeBytes : UInt32 := 64
  deriving DecidableEq, Repr

/-- Conversion of an unsigned value to a 32-bit `int`. -/
def toInt32 (value : Nat) : Int := Int.bmod value (2 ^ 32)

/-- A small value is its own `int`. -/
theorem toInt32_of_lt {value : Nat} (small : value < 2 ^ 31) :
    toInt32 value = value := by
  unfold toInt32
  rw [Int.bmod_def]
  omega

/-- An operand as an `int`. -/
theorem toInt32_cases (reg : UInt32) :
    reg.toNat < 2 ^ 31 ∧ toInt32 reg.toNat = reg.toNat ∨
      2 ^ 31 ≤ reg.toNat ∧ toInt32 reg.toNat = reg.toNat - 2 ^ 32 := by
  have bound := reg.toNat_lt
  unfold toInt32
  rw [Int.bmod_def]
  omega

/-- A register file. -/
abbrev Registers (F : Type) := List F

namespace Registers

variable {F : Type}

/-- Read a register. -/
def read [Zero F] (registers : Registers F) (reg : Nat) : F :=
  registers.getD reg 0

/-- Write a register at a possibly negative index. -/
def writeInt (registers : Registers F) (reg : Int) (value : F) :
    Registers F :=
  if 0 ≤ reg then registers.set reg.toNat value else registers

/-- Write consecutive registers from a base. -/
def writeLanes (registers : Registers F) (base : Int) (values : List F) :
    Registers F :=
  values.zipIdx.foldl
    (fun registers lane => registers.writeInt (base + lane.2) lane.1)
    registers

/-- Index of a lane, computed in 32-bit unsigned arithmetic. -/
def lane (base : UInt32) (offset : Nat) : Nat :=
  (base + UInt32.ofNat offset).toNat

/-- A loop over at most sixteen lanes that stops at the first lane of which a
window lies outside the register file. -/
def forLanes
    (registers : Registers F)
    (windows : List UInt32)
    (body : Nat → Registers F → Registers F) : Registers F :=
  let inside := fun offset =>
    windows.all fun base => decide (lane base offset < registers.length)
  ((List.range 16).takeWhile inside).foldl
    (fun registers offset => body offset registers) registers

end Registers

/-- A core: its register file, the instructions left, the stall with what it
waits for, its GRU cell and the components it refers to. -/
structure SIMDCore (F : Type) where
  pcId : PcId
  registers : Registers F
  instructionQueue : List SIMDInstruction := []
  isStalled : Bool := false
  /-- Register a pending write-back starts at; -1 when there is none. -/
  pendingDestReg : Int := -1
  isWaitingForPiccolo : Bool := false
  isWaitingForGru : Bool := false
  gruCell : GRUCell F
  router : Nat
  arrayFeeder : Nat
  piccolo : Nat
  gruSa : Option Nat := none
  gruFeeder : Option Nat := none

namespace SIMDCore

variable {F : Type}

/-- A newly built core. -/
def initial [Zero F] [One F]
    (pcId : PcId)
    (router feeder piccolo numRegisters : Nat) : SIMDCore F where
  pcId := pcId
  registers := List.replicate numRegisters 0
  gruCell := GRUCell.initial
  router := router
  arrayFeeder := feeder
  piccolo := piccolo

/-- Replace the instructions left, and forget the stall. -/
def loadProgram (core : SIMDCore F) (program : List SIMDInstruction) :
    SIMDCore F :=
  { core with
    instructionQueue := program
    isStalled := false
    pendingDestReg := -1
    isWaitingForPiccolo := false
    isWaitingForGru := false }

/-- Load the weights of the core's GRU cell. -/
def loadGruWeights (core : SIMDCore F) (wR wZ wIn wHn : Weights F) :
    SIMDCore F :=
  { core with gruCell := core.gruCell.loadWeights wR wZ wIn wHn }

/-- No instruction is left and none is waited for. -/
def isDone (core : SIMDCore F) : Bool :=
  core.instructionQueue.isEmpty && !core.isStalled

/-- Release the stall of a finished gather. -/
def resume (core : SIMDCore F) : SIMDCore F :=
  { core with
    isStalled := false
    isWaitingForPiccolo := false
    pendingDestReg := -1 }

/-- Drop the instruction at the head of the queue. -/
def popInstruction (core : SIMDCore F) : SIMDCore F :=
  { core with instructionQueue := core.instructionQueue.tail }

/-- What one core tick leaves behind. -/
structure TickResult (F : Type) where
  core : SIMDCore F
  piccolo : PiccoloGatherController
  /-- The array and feeder lent to the GRU cell. -/
  gruHardware : Option (SystolicArray F × ArrayFeeder F)
  /-- Vector pushed to the core's feeder. -/
  pushed : Option (Vec16 F) := none
  /-- Burst handed to the core's router. -/
  request : Option MemoryBurst := none

/-- Number of lanes a memory reply copies, in the unsigned 64-bit arithmetic
of the source: a pending register at or past the end of the file wraps. -/
def replyCount (core : SIMDCore F) (payload : Nat) : UInt64 :=
  let count := UInt64.ofNat (min 16 payload)
  let pending := UInt64.ofInt core.pendingDestReg
  let size := UInt64.ofNat core.registers.length
  if size < pending + count then size - pending else count

/-- Accept a memory reply; ignored unless the core waits for one.  Lanes the
source copies to places outside the file are dropped here. -/
def onMemoryReply (core : SIMDCore F) (burstData : List F) : SIMDCore F :=
  if !core.isStalled || core.pendingDestReg == -1 then core else
    let count := core.replyCount burstData.length
    { core with
      registers := core.registers.writeLanes core.pendingDestReg
        (burstData.take count.toNat)
      isStalled := false
      pendingDestReg := -1 }

section Drain

variable (ops : FloatOps F)

/-- Move gathered values from the data buffer to consecutive registers while
there are values, lanes of the batch and registers left. -/
def drainDataBuffer :
    (fuel : Nat) → (i : Int) → (batchSize : Nat) →
      SIMDCore F → PiccoloGatherController →
        SIMDCore F × PiccoloGatherController
  | 0, _, _, core, piccolo => (core, piccolo)
  | fuel + 1, i, batchSize, core, piccolo =>
      if piccolo.db.size ≠ 0 ∧ i < toInt32 batchSize ∧
          core.pendingDestReg + i < toInt32 core.registers.length then
        let value := ops.ofBits piccolo.db.front
        drainDataBuffer fuel (i + 1) batchSize
          { core with
            registers :=
              core.registers.writeInt (core.pendingDestReg + i) value }
          piccolo.popDb
      else (core, piccolo)

/-- The wait for the gather controller. -/
def tickPiccoloWait (core : SIMDCore F) (piccolo : PiccoloGatherController) :
    SIMDCore F × PiccoloGatherController :=
  if piccolo.done then
    let (core, piccolo) :=
      drainDataBuffer ops piccolo.db.size 0 piccolo.numElems core piccolo
    (core.resume, piccolo)
  else (core, piccolo)

end Drain

section Execute

variable [Zero F] [One F] [Add F] [Sub F] [Mul F] [Div F] [NatCast F]

/-- Write the GRU result back lane by lane, within the register file. -/
def writeBackGru (core : SIMDCore F) (hNew : Vec16 F) : Registers F :=
  let inside := fun i : Nat =>
    decide (core.pendingDestReg + i < toInt32 core.registers.length)
  ((List.finRange 16).takeWhile fun i => inside i.val).foldl
    (fun registers i =>
      registers.writeInt (core.pendingDestReg + i.val) (hNew i))
    core.registers

/-- The wait for the GRU cell. -/
def tickGruWait
    (ops : FloatOps F)
    (core : SIMDCore F)
    (hardware : Option (SystolicArray F × ArrayFeeder F)) :
    SIMDCore F × Option (SystolicArray F × ArrayFeeder F) :=
  match hardware with
  | none => (core, none)
  | some (sa, feeder) =>
      let after := GRUCell.tick ops ⟨core.gruCell, sa, feeder⟩
      let core := { core with gruCell := after.cell }
      if after.cell.isDone then
        ({ core with
            registers := core.writeBackGru after.cell.hNew
            isStalled := false
            isWaitingForGru := false
            pendingDestReg := -1
            gruSa := none
            gruFeeder := none },
          some (after.sa, after.feeder))
      else (core, some (after.sa, after.feeder))

/-- The value TIME_ENCODE puts into one lane. -/
def timeEncoding (ops : FloatOps F) (deltaT : F) (i : Nat) : F :=
  let freq := 1 / ops.pow ((10000 : Nat) : F)
    (((2 : Nat) : F) * (i : F) / ((16 : Nat) : F))
  if i % 2 = 0 then ops.cos (freq * deltaT) else ops.sin (freq * deltaT)

/-- Effect on the register file of an instruction that completes at once. -/
def executeRegisters
    (ops : FloatOps F)
    (inst : SIMDInstruction)
    (registers : Registers F) : Registers F :=
  match inst.op with
  | .addVec =>
      registers.set inst.destReg.toNat
        (registers.read inst.src1Reg.toNat + registers.read inst.src2Reg.toNat)
  | .mulVec =>
      registers.set inst.destReg.toNat
        (registers.read inst.src1Reg.toNat * registers.read inst.src2Reg.toNat)
  | .sigmoid =>
      registers.forLanes [inst.src1Reg, inst.destReg] fun i registers =>
        registers.set (Registers.lane inst.destReg i)
          (ops.sigmoid (registers.read (Registers.lane inst.src1Reg i)))
  | .tanh =>
      registers.forLanes [inst.src1Reg, inst.destReg] fun i registers =>
        registers.set (Registers.lane inst.destReg i)
          (ops.tanh (registers.read (Registers.lane inst.src1Reg i)))
  | .hadamard =>
      registers.forLanes [inst.src1Reg, inst.src2Reg, inst.destReg]
        fun i registers =>
          registers.set (Registers.lane inst.destReg i)
            (registers.read (Registers.lane inst.src1Reg i) *
              registers.read (Registers.lane inst.src2Reg i))
  | .timeEncode =>
      registers.forLanes [inst.destReg] fun i registers =>
        registers.set (Registers.lane inst.destReg i)
          (timeEncoding ops (ops.ofUInt64 inst.memAddr) i)
  | _ => registers

/-- The offsets GATHER reads from the register file. -/
def gatherOffsets
    (ops : FloatOps F)
    (inst : SIMDInstruction)
    (registers : Registers F) : List UInt32 :=
  (List.range (inst.sizeBytes.toNat / 4)).map fun i =>
    ops.toUInt32 (registers.read (Registers.lane inst.src1Reg i))

/-- The vector PUSH_ARR reads from the register file. -/
def pushOperand (inst : SIMDInstruction) (registers : Registers F) :
    Vec16 F :=
  fun i => registers.read (Registers.lane inst.src1Reg i.val)

/-- The burst of a LOAD. -/
def loadBurst (this : Nat) (pcId : PcId) (inst : SIMDInstruction) :
    MemoryBurst where
  addr := inst.memAddr
  sizeBytes := inst.sizeBytes
  pcId := pcId
  onComplete := some (.loadReply this)

/-- Issue the instruction at the head of the queue; `this` is the reference a
LOAD's callback captures. -/
def issue
    (ops : FloatOps F)
    (this : Nat)
    (core : SIMDCore F)
    (inst : SIMDInstruction)
    (piccolo : PiccoloGatherController)
    (hardware : Option (SystolicArray F × ArrayFeeder F)) : TickResult F :=
  match inst.op with
  | .gather =>
      { core :=
          { core.popInstruction with
            pendingDestReg := toInt32 inst.destReg.toNat
            isStalled := true
            isWaitingForPiccolo := true }
        piccolo :=
          ((piccolo.setBaseAddr inst.memAddr).resetForNewBatch
            (inst.sizeBytes.toNat / 4)).pushOffsets
              (gatherOffsets ops inst core.registers)
        gruHardware := hardware }
  | .load =>
      { core :=
          { core.popInstruction with
            pendingDestReg := toInt32 inst.destReg.toNat
            isStalled := true }
        piccolo := piccolo
        gruHardware := hardware
        request := some (loadBurst this core.pcId inst) }
  | .pushArr =>
      { core := core.popInstruction
        piccolo := piccolo
        gruHardware := hardware
        pushed := some (pushOperand inst core.registers) }
  | .gruUpdate =>
      match hardware with
      | none => { core := core, piccolo := piccolo, gruHardware := none }
      | some _ =>
          { core :=
              { core.popInstruction with
                gruCell := core.gruCell.start
                  (fun i => core.registers.read
                    (Registers.lane inst.src1Reg i.val))
                  (fun i => core.registers.read
                    (Registers.lane inst.src2Reg i.val))
                pendingDestReg := toInt32 inst.destReg.toNat
                isStalled := true
                isWaitingForGru := true }
            piccolo := piccolo
            gruHardware := hardware }
  | _ =>
      { core :=
          { core.popInstruction with
            registers := executeRegisters ops inst core.registers }
        piccolo := piccolo
        gruHardware := hardware }

/-- One cycle of the core. -/
def tick
    (ops : FloatOps F)
    (this : Nat)
    (core : SIMDCore F)
    (piccolo : PiccoloGatherController)
    (hardware : Option (SystolicArray F × ArrayFeeder F)) : TickResult F :=
  if core.isStalled && core.isWaitingForPiccolo then
    let (core, piccolo) := core.tickPiccoloWait ops piccolo
    { core := core, piccolo := piccolo, gruHardware := hardware }
  else if core.isStalled && core.isWaitingForGru then
    let (core, hardware) := core.tickGruWait ops hardware
    { core := core, piccolo := piccolo, gruHardware := hardware }
  else if core.isStalled then
    { core := core, piccolo := piccolo, gruHardware := hardware }
  else
    match core.instructionQueue with
    | [] => { core := core, piccolo := piccolo, gruHardware := hardware }
    | inst :: _ => core.issue ops this inst piccolo hardware

end Execute

end SIMDCore

end PimGraphs
