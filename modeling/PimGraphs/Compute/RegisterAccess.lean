import PimGraphs.Compute.WriteBack

/-!
# Accesses to the register file

The element-wise instructions compare every lane with the size of the register
file.  ADD_VEC, MUL_VEC, GATHER and PUSH_ARR index the file with their operands
as they are, and the three write-backs compare in arithmetic that may wrap.
The registers these accesses reach are listed here as the code computes them.
What the program does after an access outside the file is undefined; in the
register file here such an access reads zero and writes nothing.
-/

namespace PimGraphs

/-- Registers an instruction accesses at its issue without a comparison with
the size of the file. -/
def SIMDInstruction.unchecked (inst : SIMDInstruction) : List Nat :=
  match inst.op with
  | .addVec | .mulVec =>
      [inst.destReg.toNat, inst.src1Reg.toNat, inst.src2Reg.toNat]
  | .gather =>
      (List.range (inst.sizeBytes.toNat / 4)).map (Registers.lane inst.src1Reg)
  | .pushArr => (List.range 16).map (Registers.lane inst.src1Reg)
  | _ => []

/-- A finished cell, and one in its last phase, is done after a tick. -/
def GRUCell.finishes {F : Type} (cell : GRUCell F) : Bool :=
  cell.isDone || cell.phase == .applyElementwise

theorem GRUCell.isDone_drainGate
    {F : Type} [Zero F] [Add F] [Mul F]
    (state : Borrowed F)
    (latch : GRUCell F → GRUCell F)
    (next : GRUPhase)
    (keeps : ∀ cell, (latch cell).isDone = cell.isDone) :
    (drainGate state latch next).cell.isDone = state.cell.isDone := by
  obtain ⟨bottom, waits | latches⟩ := drainGate_cases state latch next
  · rw [waits]
  · rw [latches]
    exact keeps _

theorem GRUCell.isDone_tick
    {F : Type} [Zero F] [One F] [Add F] [Sub F] [Mul F]
    (ops : FloatOps F)
    (state : Borrowed F) :
    (tick ops state).cell.isDone = state.cell.finishes := by
  unfold tick finishes
  cases done : state.cell.isDone with
  | true => rw [if_pos rfl, done, Bool.true_or]
  | false =>
      rw [if_neg Bool.false_ne_true, Bool.false_or]
      cases phase : state.cell.phase
      case applyElementwise => rfl
      case drainResetGate =>
        exact (isDone_drainGate _ (latchResetGate ops) .loadUpdateGate
          fun _ => rfl).trans done
      case drainUpdateGate =>
        exact (isDone_drainGate _ (latchUpdateGate ops) .loadNewGateH
          fun _ => rfl).trans done
      case drainNewGateH =>
        exact (isDone_drainGate _ latchResetGatedH .loadNewGateX
          fun _ => rfl).trans done
      case drainNewGateX =>
        exact (isDone_drainGate _ (latchNewGate ops) .applyElementwise
          fun _ => rfl).trans done
      all_goals exact done

namespace Registers

variable {F : Type}

@[simp] theorem length_storeLanes
    (registers : Registers F)
    (base : Int)
    (values : List F)
    (lanes : List Nat) :
    (registers.storeLanes base values lanes).length = registers.length := by
  unfold storeLanes
  apply Sweep.observe_foldl (fun reached : Registers F => reached.length)
  intro reached lane
  cases values[lane]? with
  | none => rfl
  | some value => exact length_writeInt _ _ _

end Registers

namespace SIMDCore

variable {F : Type}

/-- Registers a write-back of some lanes stores to. -/
def storedTo (core : SIMDCore F) (lanes : List Nat) : List Int :=
  lanes.map fun (lane : Nat) => core.pendingDestReg + lane

/-- Registers a memory reply stores to. -/
def replyAccesses (core : SIMDCore F) (payload : Nat) : List Int :=
  core.storedTo (core.replyLanes payload)

/-- An index of the register file. -/
def HasRegister (core : SIMDCore F) (reg : Int) : Prop :=
  0 ≤ reg ∧ reg < core.registers.length

/-- The pending register is in the file, or just past its end. -/
def ReplyFits (core : SIMDCore F) : Prop :=
  0 ≤ core.pendingDestReg ∧ core.pendingDestReg ≤ core.registers.length

/-- Lanes that pass the comparison in `int` do not begin in front of the
file. -/
def LanesFit (core : SIMDCore F) : Prop :=
  core.pendingDestReg < toInt32 core.registers.length →
    0 ≤ core.pendingDestReg

/-- The pending register and the size of the file come from 32-bit values. -/
structure Encoded (core : SIMDCore F) : Prop where
  pending : ∃ destReg : UInt32, core.pendingDestReg = toInt32 destReg.toNat
  size : ∃ numRegisters : UInt32,
    core.registers.length = numRegisters.toNat

/-- Absence of a pending register is the encoding of the largest operand. -/
theorem exists_toInt32_eq_neg_one :
    ∃ destReg : UInt32, (-1 : Int) = toInt32 destReg.toNat :=
  ⟨0xFFFFFFFF, by decide⟩

theorem length_registers_onMemoryReply
    (core : SIMDCore F)
    (payload : List F) :
    (core.onMemoryReply payload).registers.length =
      core.registers.length := by
  rw [registers_onMemoryReply, Registers.length_storeLanes]

theorem length_writeBackGru (core : SIMDCore F) (hNew : Vec16 F) :
    (core.writeBackGru hNew).length = core.registers.length := by
  rw [registers_writeBackGru, Registers.length_storeLanes]

theorem Encoded.onMemoryReply
    {core : SIMDCore F}
    (encoded : core.Encoded)
    (payload : List F) :
    (core.onMemoryReply payload).Encoded where
  pending := by
    unfold SIMDCore.onMemoryReply
    split
    · exact encoded.pending
    · exact exists_toInt32_eq_neg_one
  size := by
    rw [length_registers_onMemoryReply]
    exact encoded.size

/-- An accepted reply stays in the file exactly if the pending register is in
it or just past its end. -/
theorem replyAccesses_iff
    {core : SIMDCore F}
    (encoded : core.Encoded)
    (stalled : core.isStalled = true)
    (present : core.pendingDestReg ≠ -1)
    (payload : Nat) :
    (∀ reg ∈ core.replyAccesses payload, core.HasRegister reg) ↔
      core.ReplyFits := by
  obtain ⟨destReg, pending⟩ := encoded.pending
  obtain ⟨numRegisters, size⟩ := encoded.size
  have bound := destReg.toNat_lt
  have dest := toInt32_cases destReg
  have counts := replyCount_cases size pending payload
  have accepts : (!core.isStalled || core.pendingDestReg == -1) = false := by
    rw [stalled, beq_eq_false_iff_ne.mpr present]
    rfl
  unfold replyAccesses storedTo HasRegister ReplyFits
  simp only [replyLanes_of_accepts accepts, List.forall_mem_map,
    List.mem_range, size]
  constructor
  · intro inside
    have first := inside 0
    omega
  · intro fits lane counted
    omega

theorem gruAccesses_iff
    {core : SIMDCore F}
    (encoded : core.Encoded) :
    (∀ reg ∈ core.storedTo core.gruLanes, core.HasRegister reg) ↔
      core.LanesFit := by
  obtain ⟨numRegisters, size⟩ := encoded.size
  have file := toInt32_cases numRegisters
  unfold storedTo HasRegister LanesFit
  simp only [List.forall_mem_map, mem_gruLanes, size]
  constructor
  · intro inside
    have first := inside 0
    omega
  · intro fits lane stored
    omega

theorem drainAccesses_iff
    {core : SIMDCore F}
    (encoded : core.Encoded)
    (piccolo : PiccoloGatherController) :
    (∀ reg ∈ core.storedTo (core.drainLanes piccolo),
        core.HasRegister reg) ↔
      (piccolo.db.size ≠ 0 → 0 < toInt32 piccolo.numElems →
        core.LanesFit) := by
  obtain ⟨numRegisters, size⟩ := encoded.size
  have file := toInt32_cases numRegisters
  unfold storedTo HasRegister LanesFit
  simp only [List.forall_mem_map, mem_drainLanes, size]
  constructor
  · intro inside
    have first := inside 0
    omega
  · intro fits lane stored
    omega

section Tick

variable [Zero F] [One F] [Add F] [Sub F] [Mul F] [Div F] [NatCast F]

/-- Registers a tick accesses at operands it has not compared, or compared in
arithmetic that may wrap. -/
def tickAccesses
    (ops : FloatOps F)
    (core : SIMDCore F)
    (piccolo : PiccoloGatherController)
    (hardware : Option (SystolicArray F × ArrayFeeder F)) : List Int :=
  if core.isStalled && core.isWaitingForPiccolo then
    if piccolo.done then core.storedTo (core.drainLanes piccolo) else []
  else if core.isStalled && core.isWaitingForGru then
    match hardware with
    | none => []
    | some (sa, feeder) =>
        if (GRUCell.tick ops ⟨core.gruCell, sa, feeder⟩).cell.isDone then
          core.storedTo core.gruLanes
        else []
  else if core.isStalled then []
  else
    match core.instructionQueue with
    | [] => []
    | inst :: _ => inst.unchecked.map fun (reg : Nat) => (reg : Int)

/-- What keeps the accesses of a tick in the file: a finished gather and a
finished GRU update do not begin in front of it, and the instruction issued has
its operands in it. -/
structure TickFits
    (core : SIMDCore F)
    (piccolo : PiccoloGatherController)
    (hardware : Option (SystolicArray F × ArrayFeeder F)) : Prop where
  gathered : core.isStalled = true → core.isWaitingForPiccolo = true →
    piccolo.done = true → piccolo.db.size ≠ 0 →
      0 < toInt32 piccolo.numElems → core.LanesFit
  updated : core.isStalled = true → core.isWaitingForPiccolo = false →
    core.isWaitingForGru = true → hardware.isSome = true →
      core.gruCell.finishes = true → core.LanesFit
  issued : core.isStalled = false → ∀ inst ∈ core.instructionQueue.head?,
    ∀ reg ∈ inst.unchecked, reg < core.registers.length

variable (ops : FloatOps F) (this : Nat) (core : SIMDCore F)
variable (piccolo : PiccoloGatherController)
variable (hardware : Option (SystolicArray F × ArrayFeeder F))

omit [Div F] [NatCast F] in
/-- The accesses of a tick stay in the file exactly if they fit it. -/
theorem tickAccesses_iff
    (encoded : core.Encoded) :
    (∀ reg ∈ core.tickAccesses ops piccolo hardware,
        core.HasRegister reg) ↔
      core.TickFits piccolo hardware := by
  have gru := gruAccesses_iff encoded
  have drain := drainAccesses_iff encoded piccolo
  constructor
  · intro inside
    refine ⟨?_, ?_, ?_⟩
    · intro stalled gathering done
      simp only [tickAccesses, stalled, gathering, done, Bool.and_self,
        if_true] at inside
      exact drain.mp inside
    · intro stalled notGathering updating lent finishes
      obtain ⟨⟨sa, feeder⟩, rfl⟩ := Option.isSome_iff_exists.mp lent
      simp only [tickAccesses, stalled, notGathering, updating,
        GRUCell.isDone_tick, finishes, Bool.and_self, Bool.and_false,
        Bool.false_eq_true, if_false, if_true] at inside
      exact gru.mp inside
    · intro running inst head reg member
      obtain ⟨rest, queue⟩ := List.head?_eq_some_iff.mp head
      simp only [tickAccesses, running, queue, Bool.false_and,
        Bool.false_eq_true, if_false, List.forall_mem_map] at inside
      exact Int.ofNat_lt.mp (inside reg member).2
  · intro fits reg member
    unfold tickAccesses at member
    split at member
    case isTrue gathers =>
      rw [Bool.and_eq_true] at gathers
      split at member
      case isTrue done =>
        exact drain.mpr (fits.gathered gathers.1 gathers.2 done) reg member
      case isFalse => exact absurd member List.not_mem_nil
    case isFalse notGathers =>
      split at member
      case isTrue updates =>
        rw [Bool.and_eq_true] at updates
        rw [updates.1, Bool.true_and, Bool.not_eq_true] at notGathers
        split at member
        · exact absurd member List.not_mem_nil
        · split at member
          case isTrue finishes =>
            rw [GRUCell.isDone_tick] at finishes
            exact gru.mpr (fits.updated updates.1 notGathers updates.2 rfl
              finishes) reg member
          case isFalse => exact absurd member List.not_mem_nil
      case isFalse =>
        split at member
        · exact absurd member List.not_mem_nil
        case isFalse running =>
          rw [Bool.not_eq_true] at running
          split at member
          · exact absurd member List.not_mem_nil
          case h_2 inst rest queue =>
            obtain ⟨operand, isOperand, rfl⟩ := List.mem_map.mp member
            have head : inst ∈ core.instructionQueue.head? := by
              rw [queue]
              rfl
            exact ⟨Int.natCast_nonneg operand,
              Int.ofNat_lt.mpr (fits.issued running inst head operand
                isOperand)⟩

omit [Zero F] [One F] [Add F] [Sub F] [Mul F] [Div F] [NatCast F] in
theorem length_registers_tickPiccoloWait :
    (core.tickPiccoloWait ops piccolo).1.registers.length =
      core.registers.length := by
  unfold tickPiccoloWait
  split
  · have drained := registers_drainDataBuffer ops piccolo.db.size 0
      piccolo.numElems core piccolo rfl
    exact (congrArg List.length drained).trans
      (Registers.length_storeLanes _ _ _ _)
  · rfl

omit [Div F] [NatCast F] in
theorem length_registers_tickGruWait :
    (core.tickGruWait ops hardware).1.registers.length =
      core.registers.length := by
  cases hardware with
  | none => rfl
  | some lent =>
      obtain ⟨sa, feeder⟩ := lent
      cases ready : (GRUCell.tick ops
          ⟨core.gruCell, sa, feeder⟩).cell.isDone with
      | false =>
          simp only [tickGruWait, ready, Bool.false_eq_true, if_false]
      | true =>
          rw [tickGruWait_of_isDone ready]
          simp only [length_writeBackGru]

/-- A tick does not change the size of the register file. -/
theorem length_registers_tick :
    (core.tick ops this piccolo hardware).core.registers.length =
      core.registers.length := by
  unfold tick
  split
  · exact length_registers_tickPiccoloWait ops core piccolo
  · split
    · exact length_registers_tickGruWait ops core hardware
    · split
      · rfl
      · split
        · rfl
        · unfold issue
          split
          all_goals
            first
              | exact length_executeRegisters _ _ _
              | rfl
              | (split <;> rfl)

end Tick

end SIMDCore

end PimGraphs
