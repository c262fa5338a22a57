import PimGraphs.Compute.Simd
import PimGraphs.Library.Sweep
import PimGraphs.Memory.GatherBatch

/-!
# Programs of the SIMD core, one instruction at a time

The meaning of a program without the GRU instruction: loads and gathers take
effect immediately, so nothing ever waits.  The lemmas below say that the
core's own ways of writing a reply and of draining the data buffer into
registers amount to writing consecutive registers, as far as the file goes.
-/

namespace PimGraphs

/-- What a program leaves behind: the register file, the vectors pushed to the
feeder, the bursts handed to the router and the element reads issued. -/
@[ext] structure Outcome (F : Type) where
  registers : Registers F
  pushes : List (Vec16 F) := []
  bursts : List MemoryBurst := []
  reads : List MemoryBurst := []

/-- The identities a program's requests carry. -/
structure Wiring where
  core : Nat
  pcId : PcId
  piccolo : Nat
  gatherPcId : PcId
  elemBytes : UInt32

namespace SIMDInstruction

/-- Number of elements a GATHER asks for. -/
def elementsToGather (inst : SIMDInstruction) : Nat :=
  inst.sizeBytes.toNat / 4

section Execute

variable {F : Type}
variable [Zero F] [One F] [Add F] [Sub F] [Mul F] [Div F] [NatCast F]

/-- The effect of one instruction. -/
def interpret
    (ops : FloatOps F)
    (wiring : Wiring)
    (outcome : Outcome F)
    (inst : SIMDInstruction) : Outcome F :=
  match inst.op with
  | .load =>
      { outcome with
        registers := outcome.registers.writeLanes inst.destReg.toNat
          (List.replicate 16 1)
        bursts := outcome.bursts ++
          [SIMDCore.loadBurst wiring.core wiring.pcId inst] }
  | .gather =>
      { outcome with
        registers := outcome.registers.writeLanes inst.destReg.toNat
          (List.replicate inst.elementsToGather (ops.ofBits 0))
        reads := outcome.reads ++
          (SIMDCore.gatherOffsets ops inst outcome.registers).map
            (GatherBatch.gatherRead wiring.piccolo wiring.gatherPcId
              inst.memAddr wiring.elemBytes) }
  | .pushArr =>
      { outcome with
        pushes := outcome.pushes ++
          [SIMDCore.pushOperand inst outcome.registers] }
  | _ =>
      { outcome with
        registers := SIMDCore.executeRegisters ops inst outcome.registers }

end Execute

/-- Consecutive registers inside a file, whose size the source compares with
as an `int`. -/
def InRange (numRegisters : UInt32) (reg : UInt32) (count : Nat) : Prop :=
  (reg.toNat : Int) + count ≤ toInt32 numRegisters.toNat

instance (numRegisters reg : UInt32) (count : Nat) :
    Decidable (InRange numRegisters reg count) :=
  inferInstanceAs (Decidable (_ ≤ _))

/-- An instruction other than GRU_UPDATE, with its register operands in range
and at most 256 elements to gather. -/
structure Supported
    (numRegisters : UInt32)
    (inst : SIMDInstruction) : Prop where
  notGru : inst.op ≠ .gruUpdate
  load : inst.op = .load → InRange numRegisters inst.destReg 1
  vector : inst.op = .addVec ∨ inst.op = .mulVec →
    InRange numRegisters inst.destReg 1 ∧
      InRange numRegisters inst.src1Reg 1 ∧
        InRange numRegisters inst.src2Reg 1
  push : inst.op = .pushArr → InRange numRegisters inst.src1Reg 16
  gather : inst.op = .gather →
    InRange numRegisters inst.destReg 1 ∧
      InRange numRegisters inst.src1Reg inst.elementsToGather ∧
        inst.elementsToGather ≤ 256

end SIMDInstruction

/-- The effect of a program. -/
def interpret {F : Type}
    [Zero F] [One F] [Add F] [Sub F] [Mul F] [Div F] [NatCast F]
    (ops : FloatOps F)
    (wiring : Wiring)
    (program : List SIMDInstruction)
    (outcome : Outcome F) : Outcome F :=
  program.foldl (SIMDInstruction.interpret ops wiring) outcome

theorem length_forLanes
    {F : Type}
    (registers : Registers F)
    (windows : List UInt32)
    (body : Nat → Registers F → Registers F)
    (keeps : ∀ offset reached, (body offset reached).length = reached.length) :
    (registers.forLanes windows body).length = registers.length := by
  unfold Registers.forLanes
  apply Sweep.observe_foldl (fun reached : Registers F => reached.length)
  intro reached offset
  apply keeps

/-- No instruction changes the size of the register file. -/
theorem length_executeRegisters {F : Type}
    [Zero F] [One F] [Add F] [Sub F] [Mul F] [Div F] [NatCast F]
    (ops : FloatOps F)
    (inst : SIMDInstruction)
    (registers : Registers F) :
    (SIMDCore.executeRegisters ops inst registers).length =
      registers.length := by
  unfold SIMDCore.executeRegisters
  split
  all_goals
    first
      | exact List.length_set
      | exact length_forLanes _ _ _ fun _ _ => List.length_set
      | rfl

@[simp] theorem length_gatherOffsets {F : Type} [Zero F]
    (ops : FloatOps F)
    (inst : SIMDInstruction)
    (registers : Registers F) :
    (SIMDCore.gatherOffsets ops inst registers).length =
      inst.elementsToGather := by
  rw [SIMDCore.gatherOffsets, List.length_map, List.length_range]
  rfl

/-! ## Writing consecutive registers -/

namespace SIMDInstruction

/-- With a register in range, the file's size is an `int`. -/
theorem InRange.bounds
    {numRegisters reg : UInt32}
    {count : Nat}
    (inRange : InRange numRegisters reg count) :
    numRegisters.toNat < 2 ^ 31 ∧ reg.toNat + count ≤ numRegisters.toNat := by
  have size := toInt32_cases numRegisters
  have bound := numRegisters.toNat_lt
  unfold InRange at inRange
  omega

end SIMDInstruction

namespace Registers

variable {F : Type}

@[simp] theorem length_writeInt
    (registers : Registers F)
    (reg : Int)
    (value : F) :
    (registers.writeInt reg value).length = registers.length := by
  unfold writeInt
  split
  · exact List.length_set
  · rfl

theorem writeInt_of_le
    (registers : Registers F)
    {reg : Nat}
    (outside : registers.length ≤ reg)
    (value : F) :
    registers.writeInt reg value = registers :=
  (if_pos (Int.natCast_nonneg reg)).trans (List.set_eq_of_length_le outside)

@[simp] theorem writeLanes_nil (registers : Registers F) (base : Int) :
    registers.writeLanes base [] = registers := rfl

theorem writeLanes_cons
    (registers : Registers F)
    (base : Int)
    (value : F)
    (rest : List F) :
    registers.writeLanes base (value :: rest) =
      (registers.writeInt base value).writeLanes (base + 1) rest := by
  unfold writeLanes
  rw [List.zipIdx_cons, List.foldl_cons, zero_add, List.zipIdx_succ,
    List.foldl_map]
  simp only [Nat.cast_zero, add_zero, Nat.cast_add, Nat.cast_one, add_assoc,
    add_comm (1 : Int)]

@[simp] theorem length_writeLanes
    (registers : Registers F)
    (base : Int)
    (values : List F) :
    (registers.writeLanes base values).length = registers.length := by
  unfold writeLanes
  apply Sweep.observe_foldl (fun reached : Registers F => reached.length)
  intro reached lane
  apply length_writeInt

/-- Nothing is written behind the end of the file. -/
theorem writeLanes_of_le
    (registers : Registers F)
    {base : Nat}
    (outside : registers.length ≤ base)
    (values : List F) :
    registers.writeLanes base values = registers := by
  induction values generalizing base with
  | nil => rfl
  | cons value rest inductionHypothesis =>
      rw [writeLanes_cons, registers.writeInt_of_le outside]
      exact inductionHypothesis (Nat.le_succ_of_le outside)

/-- Values that do not fit may be left out. -/
theorem writeLanes_take
    (registers : Registers F)
    (base : Nat)
    (values : List F) :
    registers.writeLanes base (values.take (registers.length - base)) =
      registers.writeLanes base values := by
  induction values generalizing registers base with
  | nil => rw [List.take_nil]
  | cons value rest inductionHypothesis =>
      rcases Nat.lt_or_ge base registers.length with inside | outside
      · have room : registers.length - base =
            registers.length - (base + 1) + 1 := by omega
        have later := inductionHypothesis (registers.writeInt base value)
          (base + 1)
        rw [length_writeInt] at later
        rw [room, List.take_succ_cons, writeLanes_cons, writeLanes_cons]
        exact later
      · rw [registers.writeLanes_of_le outside,
          registers.writeLanes_of_le outside]

end Registers

end PimGraphs
