import PimGraphs.Compute.StallState
import PimGraphs.Compute.WriteBack
import PimGraphs.Library.InPlace

/-!
# Vector instructions

Five instructions are vector operations on sixteen lanes.  Three of them
update the register file in place, lane by lane, so a lane may find registers
that earlier lanes have overwritten; the other two handle the first lane only.
-/

namespace PimGraphs

namespace Registers

variable {F : Type}

/-- Sixteen registers from an operand on lie in the file. -/
def Window (registers : Registers F) (base : UInt32) : Prop :=
  base.toNat + 16 ≤ registers.length

instance (registers : Registers F) (base : UInt32) :
    Decidable (registers.Window base) :=
  inferInstanceAs (Decidable (_ ≤ _))

theorem lane_of_window
    {registers : Registers F}
    {numRegisters base : UInt32}
    (size : registers.length = numRegisters.toNat)
    (window : registers.Window base)
    {offset : Nat}
    (small : offset < 16) :
    lane base offset = base.toNat + offset := by
  have bound := numRegisters.toNat_lt
  unfold Window at window
  rw [lane, UInt32.toNat_add, UInt32.toNat_ofNat']
  omega

/-- Setting a register of the file updates what is read. -/
theorem read_set
    [Zero F]
    (registers : Registers F)
    {reg : Nat}
    (inside : reg < registers.length)
    (value : F) :
    read (registers.set reg value) =
      Function.update registers.read reg value := by
  ext other
  rw [read, List.getD_eq_getElem?_getD]
  by_cases same : other = reg
  · subst same
    rw [Function.update_self, List.getElem?_set_self inside]
    rfl
  · rw [Function.update_of_ne same, List.getElem?_set_ne (Ne.symm same),
      ← List.getD_eq_getElem?_getD]
    rfl

/-- With all windows in the file, the loop runs over all lanes. -/
theorem forLanes_of_windows
    {registers : Registers F}
    {numRegisters : UInt32}
    (size : registers.length = numRegisters.toNat)
    {windows : List UInt32}
    (inside : ∀ base ∈ windows, registers.Window base)
    (body : Nat → Registers F → Registers F) :
    registers.forLanes windows body =
      (List.range 16).foldl (fun registers offset => body offset registers)
        registers := by
  have every : (List.range 16).takeWhile (fun offset =>
      windows.all fun base => decide (lane base offset < registers.length)) =
      List.range 16 := by
    apply List.takeWhile_eq_self_iff.mpr
    intro offset member
    have small := List.mem_range.mp member
    rw [List.all_eq_true]
    intro base isWindow
    have window := inside base isWindow
    rw [decide_eq_true_eq, lane_of_window size window small]
    unfold Window at window
    omega
  unfold forLanes
  simp only [every]

/-- A loop that sets one register per lane updates registers in place. -/
theorem read_forLanes
    [Zero F]
    {registers : Registers F}
    {numRegisters dest : UInt32}
    (size : registers.length = numRegisters.toNat)
    {windows : List UInt32}
    (inside : ∀ base ∈ windows, registers.Window base)
    (writes : dest ∈ windows)
    {value : Nat → Registers F → F}
    {body : Nat → (Nat → F) → F}
    (computes : ∀ offset < 16, ∀ reached : Registers F,
      value offset reached = body offset reached.read) :
    read (registers.forLanes windows fun offset reached =>
        reached.set (lane dest offset) (value offset reached)) =
      InPlace.inPlace (dest.toNat + ·) body 16 registers.read := by
  have window := inside dest writes
  rw [forLanes_of_windows size inside]
  refine (InPlace.read_foldl_range read
    (fun reached : Registers F => reached.length = registers.length)
    16 ?_ rfl).2
  intro reached sameLength offset small
  refine ⟨List.length_set.trans sameLength, ?_⟩
  rw [lane_of_window size window small, computes offset small, read_set]
  unfold Window at window
  omega

end Registers

/-- The vector instructions. -/
inductive VectorOp
  | addVec
  | mulVec
  | hadamard
  | sigmoid
  | tanh

namespace VectorOp

/-- The instruction of a vector operation. -/
def opcode : VectorOp → SIMDOpcode
  | .addVec => .addVec
  | .mulVec => .mulVec
  | .hadamard => .hadamard
  | .sigmoid => .sigmoid
  | .tanh => .tanh

/-- Whether the instruction is a loop over the lanes. -/
def isLoop : VectorOp → Bool
  | .addVec | .mulVec => false
  | .hadamard | .sigmoid | .tanh => true

/-- The register operands. -/
def windows (inst : SIMDInstruction) : VectorOp → List UInt32
  | .addVec | .mulVec | .hadamard =>
      [inst.src1Reg, inst.src2Reg, inst.destReg]
  | .sigmoid | .tanh => [inst.src1Reg, inst.destReg]

variable {F : Type}

/-- The operation on one lane; the last two ignore the second operand. -/
def apply [Add F] [Mul F] (ops : FloatOps F) : VectorOp → F → F → F
  | .addVec, x, y => x + y
  | .mulVec, x, y => x * y
  | .hadamard, x, y => x * y
  | .sigmoid, x, _ => ops.sigmoid x
  | .tanh, x, _ => ops.tanh x

/-- The windows of the operands lie in the file. -/
def InFile
    (op : VectorOp)
    (inst : SIMDInstruction)
    (registers : Registers F) : Prop :=
  ∀ base ∈ op.windows inst, registers.Window base

instance
    (op : VectorOp)
    (inst : SIMDInstruction)
    (registers : Registers F) :
    Decidable (op.InFile inst registers) :=
  List.decidableBAll _ _

theorem InFile.dest
    {op : VectorOp}
    {inst : SIMDInstruction}
    {registers : Registers F}
    (inFile : op.InFile inst registers) :
    inst.destReg ∈ op.windows inst ∧ registers.Window inst.destReg := by
  have writes : inst.destReg ∈ op.windows inst := by
    cases op <;> simp [windows]
  exact ⟨writes, inFile _ writes⟩

section Lanes

variable [Zero F] [Add F] [Mul F]

/-- What a lane computes from some registers. -/
def lane
    (op : VectorOp)
    (ops : FloatOps F)
    (inst : SIMDInstruction)
    (offset : Nat)
    (registers : Nat → F) : F :=
  op.apply ops (registers (inst.src1Reg.toNat + offset))
    (registers (inst.src2Reg.toNat + offset))

/-- The registers with the first lanes of the destination already computed. -/
def found
    (op : VectorOp)
    (ops : FloatOps F)
    (inst : SIMDInstruction)
    (registers : Registers F)
    (lanes : Nat) : Nat → F :=
  fun reg =>
    if inst.destReg.toNat ≤ reg ∧ reg < inst.destReg.toNat + lanes then
      op.lane ops inst (reg - inst.destReg.toNat) registers.read
    else registers.read reg

/-- No lane is disturbed: a lane of a loop computes the same with the results
of the lanes before it, and the lanes that are left out without a loop hold
their results already. -/
def Undisturbed
    (op : VectorOp)
    (ops : FloatOps F)
    (inst : SIMDInstruction)
    (registers : Registers F) : Prop :=
  if op.isLoop then
    ∀ offset < 16,
      op.lane ops inst offset (op.found ops inst registers offset) =
        op.lane ops inst offset registers.read
  else
    ∀ offset, 0 < offset → offset < 16 →
      registers.read (inst.destReg.toNat + offset) =
        op.lane ops inst offset registers.read

end Lanes

section Execute

variable [Zero F] [One F] [Add F] [Sub F] [Mul F] [Div F] [NatCast F]

/-- The instruction sets every lane of the destination to the result of the
lane on the registers before, and changes no other register. -/
structure Vectorises
    (op : VectorOp)
    (ops : FloatOps F)
    (inst : SIMDInstruction)
    (registers : Registers F) : Prop where
  length : (SIMDCore.executeRegisters ops inst registers).length =
    registers.length
  lanes : ∀ offset < 16,
    (SIMDCore.executeRegisters ops inst registers).read
        (inst.destReg.toNat + offset) =
      op.lane ops inst offset registers.read
  others : ∀ reg,
    reg < inst.destReg.toNat ∨ inst.destReg.toNat + 16 ≤ reg →
      (SIMDCore.executeRegisters ops inst registers).read reg =
        registers.read reg

variable {op : VectorOp} {ops : FloatOps F} {inst : SIMDInstruction}
  {registers : Registers F}

omit [One F] [Sub F] [Div F] [NatCast F] in
theorem found_eq_atOnce (lanes : Nat) :
    op.found ops inst registers lanes =
      InPlace.atOnce (inst.destReg.toNat + ·) (op.lane ops inst) lanes
        registers.read := by
  ext reg
  rw [InPlace.atOnce_window, found]

/-- An instruction vectorises when it leaves the registers that computing all
lanes at once leaves. -/
theorem vectorises_iff_atOnce :
    op.Vectorises ops inst registers ↔
      (SIMDCore.executeRegisters ops inst registers).read =
        InPlace.atOnce (inst.destReg.toNat + ·) (op.lane ops inst) 16
          registers.read := by
  constructor
  · intro vectorises
    ext reg
    rw [InPlace.atOnce_window]
    split
    case isTrue inside =>
      have computed := vectorises.lanes (reg - inst.destReg.toNat) (by omega)
      rwa [Nat.add_sub_cancel' inside.1] at computed
    case isFalse outside => exact vectorises.others reg (by omega)
  · intro same
    refine ⟨length_executeRegisters ops inst registers, ?_, ?_⟩
    · intro offset small
      rw [same, InPlace.atOnce_window, if_pos ⟨by omega, by omega⟩,
        Nat.add_sub_cancel_left]
    · intro reg outside
      rw [same, InPlace.atOnce_window, if_neg (by omega)]

variable {numRegisters : UInt32}

omit [Sub F] in
/-- A loop updates the registers in place. -/
theorem read_execute_of_loop
    (size : registers.length = numRegisters.toNat)
    (opcode : inst.op = op.opcode)
    (inFile : op.InFile inst registers)
    (loop : op.isLoop = true) :
    (SIMDCore.executeRegisters ops inst registers).read =
      InPlace.inPlace (inst.destReg.toNat + ·) (op.lane ops inst) 16
        registers.read := by
  have places : ∀ base ∈ op.windows inst, ∀ offset < 16,
      Registers.lane base offset = base.toNat + offset := by
    intro base isWindow offset small
    exact Registers.lane_of_window size (inFile base isWindow) small
  have execute : SIMDCore.executeRegisters ops inst registers =
      registers.forLanes (op.windows inst) fun offset reached =>
        reached.set (Registers.lane inst.destReg offset)
          (op.apply ops
            (reached.read (Registers.lane inst.src1Reg offset))
            (reached.read (Registers.lane inst.src2Reg offset))) := by
    unfold SIMDCore.executeRegisters
    cases op with
    | addVec => exact Bool.noConfusion loop
    | mulVec => exact Bool.noConfusion loop
    | hadamard => rw [opcode]; rfl
    | sigmoid => rw [opcode]; rfl
    | tanh => rw [opcode]; rfl
  rw [execute]
  apply Registers.read_forLanes size inFile inFile.dest.1
  intro offset small reached
  cases op with
  | addVec => exact Bool.noConfusion loop
  | mulVec => exact Bool.noConfusion loop
  | hadamard =>
      rw [places inst.src1Reg (by simp [windows]) offset small,
        places inst.src2Reg (by simp [windows]) offset small]
      rfl
  | sigmoid =>
      rw [places inst.src1Reg (by simp [windows]) offset small]
      rfl
  | tanh =>
      rw [places inst.src1Reg (by simp [windows]) offset small]
      rfl

omit [Sub F] in
/-- Without a loop only the first lane is computed. -/
theorem read_execute_of_not_loop
    (opcode : inst.op = op.opcode)
    (inFile : op.InFile inst registers)
    (noLoop : op.isLoop = false) :
    (SIMDCore.executeRegisters ops inst registers).read =
      InPlace.atOnce (inst.destReg.toNat + ·) (op.lane ops inst) 1
        registers.read := by
  have execute : SIMDCore.executeRegisters ops inst registers =
      registers.set inst.destReg.toNat
        (op.lane ops inst 0 registers.read) := by
    unfold SIMDCore.executeRegisters
    cases op with
    | addVec => rw [opcode]; rfl
    | mulVec => rw [opcode]; rfl
    | hadamard => exact Bool.noConfusion noLoop
    | sigmoid => exact Bool.noConfusion noLoop
    | tanh => exact Bool.noConfusion noLoop
  have window := inFile.dest.2
  unfold Registers.Window at window
  rw [execute, Registers.read_set _ (by omega)]
  rfl

/-- A vector instruction does what it says exactly when no lane is
disturbed. -/
theorem vectorises_iff_undisturbed
    (size : registers.length = numRegisters.toNat)
    (opcode : inst.op = op.opcode)
    (inFile : op.InFile inst registers) :
    op.Vectorises ops inst registers ↔
      op.Undisturbed ops inst registers := by
  rw [vectorises_iff_atOnce]
  unfold Undisturbed
  split
  case isTrue loop =>
    rw [read_execute_of_loop size opcode inFile loop,
      InPlace.inPlace_eq_atOnce_iff fun _ _ => Nat.add_left_cancel]
    simp only [found_eq_atOnce]
  case isFalse noLoop =>
    rw [read_execute_of_not_loop opcode inFile (Bool.eq_false_iff.mpr noLoop)]
    constructor
    · intro same offset positive small
      have here := congrFun same (inst.destReg.toNat + offset)
      rwa [InPlace.atOnce_window, InPlace.atOnce_window, if_neg (by omega),
        if_pos ⟨by omega, by omega⟩, Nat.add_sub_cancel_left] at here
    · intro held
      ext reg
      rw [InPlace.atOnce_window, InPlace.atOnce_window]
      by_cases first : reg = inst.destReg.toNat
      · rw [if_pos ⟨first.ge, by omega⟩, if_pos ⟨first.ge, by omega⟩]
      · rw [if_neg (by omega)]
        split
        case isTrue inside =>
          have here := held (reg - inst.destReg.toNat) (by omega) (by omega)
          rwa [Nat.add_sub_cancel' inside.1] at here
        case isFalse => rfl

end Execute

end VectorOp

namespace SIMDCore

variable {F : Type}
variable [Zero F] [One F] [Add F] [Sub F] [Mul F] [Div F] [NatCast F]

/-- A running core executes the vector instruction at the head of its queue in
one tick. -/
theorem core_tick_vector
    (ops : FloatOps F)
    (this : Nat)
    {core : SIMDCore F}
    {inst : SIMDInstruction}
    (piccolo : PiccoloGatherController)
    (hardware : Option (SystolicArray F × ArrayFeeder F))
    (op : VectorOp)
    (running : core.isStalled = false)
    (head : core.instructionQueue.head? = some inst)
    (opcode : inst.op = op.opcode) :
    (core.tick ops this piccolo hardware).core =
      { core.popInstruction with
        registers := executeRegisters ops inst core.registers } := by
  rw [tick_of_head ops this core piccolo hardware running head]
  unfold issue
  cases op <;> rw [opcode] <;> rfl

end SIMDCore

namespace VectorOp

variable {F : Type}

/-! ## Windows that are safe -/

section Ahead

variable [Zero F] [Add F] [Mul F]
variable {op : VectorOp} {inst : SIMDInstruction} {registers : Registers F}

/-- Lanes of a window that does not reach into the destination from below are
found as they were. -/
theorem found_add
    (ops : FloatOps F)
    {base : UInt32}
    (ahead : base.toNat < inst.destReg.toNat →
      base.toNat + 16 ≤ inst.destReg.toNat)
    {offset : Nat}
    (small : offset < 16) :
    op.found ops inst registers offset (base.toNat + offset) =
      registers.read (base.toNat + offset) := by
  apply if_neg
  omega

/-- A loop whose sources start at or behind its destination, or end before it,
is not disturbed. -/
theorem undisturbed_of_ahead
    (ops : FloatOps F)
    (loop : op.isLoop = true)
    (ahead : ∀ base ∈ op.windows inst, base.toNat < inst.destReg.toNat →
      base.toNat + 16 ≤ inst.destReg.toNat) :
    op.Undisturbed ops inst registers := by
  unfold Undisturbed
  rw [if_pos loop]
  intro offset small
  unfold lane
  cases op with
  | addVec => exact Bool.noConfusion loop
  | mulVec => exact Bool.noConfusion loop
  | hadamard =>
      rw [found_add ops (ahead inst.src1Reg (by simp [windows])) small,
        found_add ops (ahead inst.src2Reg (by simp [windows])) small]
  | sigmoid =>
      rw [found_add ops (ahead inst.src1Reg (by simp [windows])) small]
      rfl
  | tanh =>
      rw [found_add ops (ahead inst.src1Reg (by simp [windows])) small]
      rfl

end Ahead

/-- A product written over its first operand. -/
theorem productInPlace_vectorises :
    VectorOp.hadamard.Vectorises FloatOps.atZero
      { op := .hadamard, destReg := 0, src1Reg := 0, src2Reg := 16 }
      (List.replicate 64 2) := by
  have size : (List.replicate 64 2 : Registers ℚ).length =
      (64 : UInt32).toNat := List.length_replicate
  apply (vectorises_iff_undisturbed size rfl (by decide)).mpr
  apply undisturbed_of_ahead
  · rfl
  · intro base _ below
    exact absurd below (Nat.not_lt_zero _)

/-- A sum of vectors, of which the first lane is computed, and a product whose
lanes each read the result of the lane before. -/
theorem sum_and_product_not_vectorise :
    ¬ VectorOp.addVec.Vectorises FloatOps.atZero
        { op := .addVec, destReg := 0, src1Reg := 16, src2Reg := 32 }
        (List.replicate 64 1) ∧
      ¬ VectorOp.hadamard.Vectorises FloatOps.atZero
        { op := .hadamard, destReg := 1, src1Reg := 0, src2Reg := 32 }
        (List.replicate 64 2) := by
  constructor
  · intro vectorises
    have second := vectorises.lanes 1 (by decide)
    revert second
    decide +kernel
  · intro vectorises
    have second := vectorises.lanes 1 (by decide)
    revert second
    decide +kernel

end VectorOp

end PimGraphs
