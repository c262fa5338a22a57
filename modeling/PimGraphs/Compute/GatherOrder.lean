import Mathlib.Data.List.GetD
import Mathlib.Data.List.Perm.Subperm
import Mathlib.Data.List.Range
import PimGraphs.Compute.Interleaving

/-!
# The order of gathered values

A GATHER enqueues the reads of its offsets in order, and the memory completes
them in any order.  The data buffer is a FIFO of the values as they come, so
the registers hold them in completion order.
-/

namespace PimGraphs

namespace Registers

variable {F : Type}

theorem getElem?_writeInt
    (registers : Registers F)
    (dest reg : Nat)
    (value : F) :
    (registers.writeInt dest value)[reg]? =
      if dest = reg ∧ reg < registers.length then some value
      else registers[reg]? := by
  rw [writeInt, if_pos (Int.natCast_nonneg dest), Int.toNat_natCast,
    List.getElem?_set]
  by_cases sameReg : dest = reg
  · subst sameReg
    by_cases inside : dest < registers.length
    · rw [if_pos rfl, if_pos inside, if_pos ⟨rfl, inside⟩]
    · rw [if_pos rfl, if_neg inside, if_neg fun both => inside both.2,
        List.getElem?_eq_none (Nat.le_of_not_lt inside)]
  · rw [if_neg sameReg, if_neg fun both => sameReg both.1]

/-- The other registers keep their values. -/
theorem getElem?_writeLanes_of_outside
    (registers : Registers F)
    (dest reg : Nat)
    (values : List F)
    (outside : reg < dest ∨ dest + values.length ≤ reg) :
    (registers.writeLanes dest values)[reg]? = registers[reg]? := by
  induction values generalizing registers dest with
  | nil => rw [writeLanes_nil]
  | cons value rest inductionHypothesis =>
      rw [List.length_cons] at outside
      rw [writeLanes_cons, ← Nat.cast_succ, inductionHypothesis _ (dest + 1)
        (by omega), getElem?_writeInt, if_neg (by omega)]

/-- Consecutive registers hold the values written to them. -/
theorem getElem?_writeLanes_add
    (registers : Registers F)
    (dest lane : Nat)
    (values : List F)
    (written : lane < values.length)
    (inside : dest + lane < registers.length) :
    (registers.writeLanes dest values)[dest + lane]? = values[lane]? := by
  induction values generalizing registers dest lane with
  | nil => exact absurd written (Nat.not_lt_zero _)
  | cons value rest inductionHypothesis =>
      rw [writeLanes_cons, ← Nat.cast_succ]
      cases lane with
      | zero =>
          rw [getElem?_writeLanes_of_outside _ _ _ _ (by omega),
            getElem?_writeInt, if_pos ⟨rfl, inside⟩]
          rfl
      | succ lane =>
          have later := inductionHypothesis (registers.writeInt dest value)
            (dest + 1) lane (Nat.lt_of_succ_lt_succ written)
            (by rw [length_writeInt]; omega)
          rw [List.getElem?_cons_succ, ← later]
          congr 1
          omega

end Registers

/-- A core that waits for a batch, and the reads of the batch that have
completed, by their positions in the order of issue. -/
structure GatherWait (F : Type) where
  core : SIMDCore F
  batch : GatherBatch
  order : List Nat := []

namespace GatherWait

variable {F : Type}

/-- An issue tick of the controller. -/
def issue (this : Nat) (wait : GatherWait F) : GatherWait F :=
  { wait with batch := wait.batch.issue this }

/-- The read at a position completes, with the value at its address. -/
def complete
    (memory : UInt64 → UInt32)
    (wait : GatherWait F)
    (position : Nat)
    (read : MemoryBurst) : GatherWait F :=
  { wait with
    batch := wait.batch.complete (memory read.addr)
    order := wait.order ++ [position] }

section Tick

variable [Zero F] [One F] [Add F] [Sub F] [Mul F] [Div F] [NatCast F]

/-- A tick of the core. -/
def tickCore
    (ops : FloatOps F)
    (coreRef : Nat)
    (hardware : Option (SystolicArray F × ArrayFeeder F))
    (wait : GatherWait F) : GatherWait F :=
  let result := wait.core.tick ops coreRef wait.batch.controller hardware
  { wait with
    core := result.core
    batch := { wait.batch with controller := result.piccolo } }

/-- What can happen until the core resumes: every read completes at most once,
in any order. -/
inductive Step
    (ops : FloatOps F)
    (coreRef this : Nat)
    (memory : UInt64 → UInt32) :
    GatherWait F → GatherWait F → Prop
  | core (hardware : Option (SystolicArray F × ArrayFeeder F))
      (wait : GatherWait F) :
      wait.core.isStalled = true →
        Step ops coreRef this memory wait (wait.tickCore ops coreRef hardware)
  | issue (wait : GatherWait F) :
      Step ops coreRef this memory wait (wait.issue this)
  | read (wait : GatherWait F) (position : Nat) (read : MemoryBurst) :
      wait.batch.reads[position]? = some read → position ∉ wait.order →
        Step ops coreRef this memory wait
          (wait.complete memory position read)

/-- A core that has just executed a GATHER. -/
def start
    (ops : FloatOps F)
    (coreRef : Nat)
    (hardware : Option (SystolicArray F × ArrayFeeder F))
    (core : SIMDCore F)
    (piccolo : PiccoloGatherController) : GatherWait F :=
  let result := core.tick ops coreRef piccolo hardware
  { core := result.core, batch := { controller := result.piccolo } }

end Tick

/-- The address of the read of an offset. -/
def elementAddr
    (piccolo : PiccoloGatherController)
    (baseAddr : UInt64)
    (offset : UInt32) : UInt64 :=
  baseAddr + offset.toUInt64 * piccolo.elemBytes.toUInt64

/-- The core waits for the reads of `offsets`; `values` gives the value at the
address of each. -/
structure Waiting
    (this : Nat)
    (initial : PiccoloGatherController)
    (offsets : List UInt32)
    (value : UInt32 → UInt32)
    (registers : Registers F)
    (dest : Nat)
    (wait : GatherWait F) : Prop where
  sound : wait.batch.Sound this initial offsets
  popped : wait.batch.popped = []
  nodup : wait.order.Nodup
  values : wait.batch.values =
    wait.order.map fun position => value (offsets.getD position 0)
  issued : ∀ position ∈ wait.order, position < wait.batch.reads.length
  stalled : wait.core.isStalled = true
  gathering : wait.core.isWaitingForPiccolo = true
  pending : wait.core.pendingDestReg = dest
  registers : wait.core.registers = registers

/-- What a GATHER into `count` registers from `dest` leaves behind when its
reads complete in a given order; `value` is the value of each element. -/
structure Gathered
    (value : Nat → F)
    (dest count : Nat)
    (before after : Registers F)
    (order : List Nat) : Prop where
  perm : order.Perm (List.range count)
  lanes : ∀ lane < count, after[dest + lane]? = order[lane]?.map value
  others : ∀ reg, reg < dest ∨ dest + count ≤ reg → after[reg]? = before[reg]?
  inOffsetOrder_iff :
    (∀ lane < count, after[dest + lane]? = some (value lane)) ↔
      order.map value = (List.range count).map value

/-- Writing the values of all elements in some order. -/
theorem gathered_writeLanes
    (value : Nat → F)
    {dest count : Nat}
    {registers : Registers F}
    (inside : dest + count ≤ registers.length)
    {order : List Nat}
    (isOrder : order.Perm (List.range count)) :
    Gathered value dest count registers
      (registers.writeLanes dest (order.map value)) order := by
  have length : order.length = count :=
    isOrder.length_eq.trans List.length_range
  have lanes : ∀ lane < count,
      (registers.writeLanes dest (order.map value))[dest + lane]? =
        order[lane]?.map value := by
    intro lane inRange
    rw [Registers.getElem?_writeLanes_add _ _ _ _
      (by rw [List.length_map, length]; exact inRange) (by omega),
      List.getElem?_map]
  refine ⟨isOrder, lanes, ?_, ?_⟩
  · intro reg outside
    apply Registers.getElem?_writeLanes_of_outside
    rw [List.length_map, length]
    exact outside
  · constructor
    · intro inOffsetOrder
      apply List.ext_getElem?
      intro lane
      rw [List.getElem?_map, List.getElem?_map]
      rcases Nat.lt_or_ge lane count with inRange | outside
      · rw [← lanes lane inRange, inOffsetOrder lane inRange,
          List.getElem?_range inRange]
        rfl
      · rw [List.getElem?_eq_none (length.trans_le outside),
          List.getElem?_eq_none (List.length_range.trans_le outside)]
    · intro sameValues lane inRange
      rw [lanes lane inRange, ← List.getElem?_map, sameValues,
        List.getElem?_map, List.getElem?_range inRange]
      rfl

section Steps

variable {this : Nat} {initial : PiccoloGatherController}
variable {offsets : List UInt32} {memory : UInt64 → UInt32}
variable {registers : Registers F} {dest : Nat} {wait : GatherWait F}

/-- Every value of a batch of which reads complete belongs to a read. -/
theorem length_lt_of_fresh
    {order : List Nat}
    {bound position : Nat}
    (nodup : order.Nodup)
    (issued : ∀ earlier ∈ order, earlier < bound)
    (inside : position < bound)
    (fresh : position ∉ order) :
    order.length < bound := by
  have distinct : (position :: order).Nodup := List.nodup_cons.mpr
    ⟨fresh, nodup⟩
  have within : position :: order ⊆ List.range bound := by
    intro other isOther
    rcases List.mem_cons.mp isOther with isPosition | isEarlier
    · rw [isPosition]
      exact List.mem_range.mpr inside
    · exact List.mem_range.mpr (issued other isEarlier)
  have few := (distinct.subperm within).length_le
  rwa [List.length_cons, List.length_range] at few

theorem Waiting.issue
    (waiting : wait.Waiting this initial offsets
      (fun offset => memory (initial.elementRead this offset).addr)
      registers dest) :
    (wait.issue this).Waiting this initial offsets
      (fun offset => memory (initial.elementRead this offset).addr)
      registers dest where
  sound := waiting.sound.issue
  popped := waiting.popped
  nodup := waiting.nodup
  values := waiting.values
  issued := by
    intro position completed
    have earlier := waiting.issued position completed
    rw [GatherWait.issue, GatherBatch.issue, List.length_append]
    omega
  stalled := waiting.stalled
  gathering := waiting.gathering
  pending := waiting.pending
  registers := waiting.registers

theorem Waiting.complete
    {position : Nat}
    {read : MemoryBurst}
    (waiting : wait.Waiting this initial offsets
      (fun offset => memory (initial.elementRead this offset).addr)
      registers dest)
    (isRead : wait.batch.reads[position]? = some read)
    (fresh : position ∉ wait.order) :
    (wait.complete memory position read).Waiting this initial offsets
      (fun offset => memory (initial.elementRead this offset).addr)
      registers dest := by
  have inside : position < wait.batch.reads.length :=
    (List.getElem?_eq_some_iff.mp isRead).1
  have count : wait.batch.values.length = wait.order.length := by
    rw [waiting.values, List.length_map]
  have inFlight : wait.batch.values.length < wait.batch.reads.length := by
    rw [count]
    exact length_lt_of_fresh waiting.nodup waiting.issued inside fresh
  have ofOffset : read =
      initial.elementRead this (offsets.getD position 0) := by
    have kept := waiting.sound.issued_le_kept
    rw [waiting.sound.length_reads] at inside
    rw [waiting.sound.reads, List.getElem?_map, List.getElem?_take_of_lt inside,
      List.getElem?_eq_getElem (inside.trans_le kept)] at isRead
    rw [List.getD_eq_getElem _ _ (inside.trans_le kept)]
    exact (Option.some.inj isRead).symm
  exact
    { sound := waiting.sound.complete _ inFlight
      popped := waiting.popped
      nodup := List.nodup_append.mpr ⟨waiting.nodup, List.nodup_singleton _,
        fun other isOther last isLast same => fresh
          (List.mem_singleton.mp isLast ▸ same ▸ isOther)⟩
      values := by
        rw [GatherWait.complete, GatherBatch.complete, List.map_append,
          waiting.values, ofOffset]
        rfl
      issued := by
        intro other isOther
        rcases List.mem_append.mp isOther with earlier | isLast
        · exact waiting.issued other earlier
        · rw [List.mem_singleton.mp isLast]
          exact inside
      stalled := waiting.stalled
      gathering := waiting.gathering
      pending := waiting.pending
      registers := waiting.registers }

/-- A core that has taken the values, and a controller with nothing left to
issue. -/
structure Resumed
    (value : Nat → F)
    (dest count : Nat)
    (before : Registers F)
    (wait : GatherWait F) : Prop where
  running : wait.core.isStalled = false
  gathered : Gathered value dest count before wait.core.registers wait.order
  reads : wait.batch.reads.length = count
  exhausted :
    wait.batch.controller.numElems ≤ wait.batch.controller.issued

theorem Resumed.issue
    {value : Nat → F}
    {count : Nat}
    (resumed : wait.Resumed value dest count registers) :
    (wait.issue this).Resumed value dest count registers := by
  have idle : wait.batch.controller.canIssue = false := by
    have exhausted := resumed.exhausted
    simp [PiccoloGatherController.canIssue, Nat.not_lt.mpr exhausted]
  have same : wait.issue this = wait := by
    simp [GatherWait.issue, GatherBatch.issue,
      PiccoloGatherController.tickIssue, idle]
  rw [same]
  exact resumed

variable [Zero F] [One F] [Add F] [Sub F] [Mul F] [Div F] [NatCast F]

/-- While reads are missing the core does nothing. -/
theorem Waiting.tickCore_of_missing
    {value : UInt32 → UInt32}
    (waiting : wait.Waiting this initial offsets value registers dest)
    (missing : wait.batch.controller.done = false)
    (ops : FloatOps F)
    (coreRef : Nat)
    (hardware : Option (SystolicArray F × ArrayFeeder F)) :
    wait.tickCore ops coreRef hardware = wait := by
  simp [tickCore, SIMDCore.tick, SIMDCore.tickPiccoloWait, waiting.stalled,
    waiting.gathering, missing]

omit [Zero F] [One F] [Add F] [Sub F] [Mul F] [Div F] [NatCast F] in
/-- A batch that is done has completed the reads of all its offsets. -/
theorem Waiting.complete_of_done
    {value : UInt32 → UInt32}
    (waiting : wait.Waiting this initial offsets value registers dest)
    (numElems : initial.numElems = offsets.length)
    (done : wait.batch.controller.done = true) :
    wait.order.Perm (List.range offsets.length) ∧
      wait.batch.controller.db.contents = wait.batch.values ∧
        wait.batch.controller.issued = offsets.length := by
  have sound := waiting.sound
  have all : wait.order.length = offsets.length := by
    rw [← numElems, ← sound.done_iff.mp done, waiting.values, List.length_map]
  have issued : wait.batch.controller.issued = offsets.length := by
    have balance := sound.balance
    have kept := sound.issued_le_kept
    have completed := sound.completed
    have elems := sound.done_iff.mp done
    omega
  refine ⟨?_, ?_, issued⟩
  · have within : wait.order ⊆ List.range offsets.length := by
      intro position completed
      have early := waiting.issued position completed
      rw [sound.length_reads, issued] at early
      exact List.mem_range.mpr early
    apply (waiting.nodup.subperm within).perm_of_length_le
    rw [all, List.length_range]
  · rw [← sound.values, waiting.popped, List.nil_append]

/-- When all reads have completed the core takes the values. -/
theorem Waiting.tickCore_of_done
    {value : UInt32 → UInt32}
    (waiting : wait.Waiting this initial offsets value registers dest)
    (numElems : initial.numElems = offsets.length)
    (few : offsets.length ≤ 256)
    (inside : dest + offsets.length ≤ registers.length)
    (bound : registers.length < 2 ^ 31)
    (done : wait.batch.controller.done = true)
    (ops : FloatOps F)
    (coreRef : Nat)
    (hardware : Option (SystolicArray F × ArrayFeeder F)) :
    (wait.tickCore ops coreRef hardware).Resumed
      (fun position => ops.ofBits (value (offsets.getD position 0)))
      dest offsets.length registers := by
  obtain ⟨isOrder, buffered, issued⟩ := waiting.complete_of_done numElems done
  have elems : wait.batch.controller.numElems = offsets.length := by
    rw [waiting.sound.same.numElems, numElems]
  have sizeBound : wait.core.registers.length < 2 ^ 31 := by
    rw [waiting.registers]
    exact bound
  have batchBound : offsets.length < 2 ^ 31 := few.trans_lt (by decide)
  obtain ⟨db, -, drained⟩ := SIMDCore.drainDataBuffer_eq ops
    wait.batch.controller.db.size 0 offsets.length wait.core
    wait.batch.controller waiting.pending rfl sizeBound batchBound
  have length : wait.batch.values.length = offsets.length := by
    rw [waiting.values, List.length_map, isOrder.length_eq, List.length_range]
  rw [buffered, Nat.sub_zero, Nat.add_zero,
    List.take_of_length_le length.le, waiting.values, List.map_map,
    waiting.registers, Nat.cast_zero] at drained
  have next : wait.tickCore ops coreRef hardware =
      { wait with
        core :=
          { wait.core with
            registers := registers.writeLanes dest (wait.order.map
              (ops.ofBits ∘ fun position => value (offsets.getD position 0)))
            isStalled := false
            isWaitingForPiccolo := false
            pendingDestReg := -1 }
        batch :=
          { wait.batch with
            controller := { wait.batch.controller with db := db } } } := by
    simp only [tickCore, SIMDCore.tick, SIMDCore.tickPiccoloWait,
      waiting.stalled, waiting.gathering, done, elems, drained,
      SIMDCore.resume, Bool.and_self, if_true]
  rw [next]
  exact
    { running := rfl
      gathered := gathered_writeLanes _ inside isOrder
      reads := by
        rw [waiting.sound.length_reads, issued]
      exhausted := by
        rw [elems, issued] }

/-- Until it resumes the core waits, and then it has taken the values. -/
theorem Waiting.step
    {ops : FloatOps F}
    {coreRef : Nat}
    {next : GatherWait F}
    (waiting : wait.Waiting this initial offsets
      (fun offset => memory (initial.elementRead this offset).addr)
      registers dest)
    (numElems : initial.numElems = offsets.length)
    (few : offsets.length ≤ 256)
    (inside : dest + offsets.length ≤ registers.length)
    (bound : registers.length < 2 ^ 31)
    (step : Step ops coreRef this memory wait next) :
    next.Waiting this initial offsets
        (fun offset => memory (initial.elementRead this offset).addr)
        registers dest ∨
      next.Resumed
        (fun position => ops.ofBits (memory
          (initial.elementRead this (offsets.getD position 0)).addr))
        dest offsets.length registers := by
  cases step with
  | core hardware =>
      cases done : wait.batch.controller.done with
      | true =>
          exact Or.inr (waiting.tickCore_of_done numElems few inside bound
            done ops coreRef hardware)
      | false =>
          rw [waiting.tickCore_of_missing done]
          exact Or.inl waiting
  | issue => exact Or.inl waiting.issue
  | read _ position read isRead fresh =>
      exact Or.inl (waiting.complete isRead fresh)

/-- After the core has resumed nothing of the batch is left to happen. -/
theorem Resumed.step
    {ops : FloatOps F}
    {coreRef : Nat}
    {value : Nat → F}
    {count : Nat}
    {next : GatherWait F}
    (resumed : wait.Resumed value dest count registers)
    (step : Step ops coreRef this memory wait next) :
    next.Resumed value dest count registers := by
  cases step with
  | core hardware _ stalled =>
      exact absurd (stalled.symm.trans resumed.running) Bool.noConfusion
  | issue => exact resumed.issue
  | read _ position read isRead fresh =>
      have inside := (List.getElem?_eq_some_iff.mp isRead).1
      rw [resumed.reads] at inside
      exact absurd (resumed.gathered.perm.mem_iff.mpr
        (List.mem_range.mpr inside)) fresh

/-- In every run a waiting core waits on, or has resumed with the values. -/
theorem Waiting.steps
    {ops : FloatOps F}
    {coreRef : Nat}
    {last : GatherWait F}
    (waiting : wait.Waiting this initial offsets
      (fun offset => memory (initial.elementRead this offset).addr)
      registers dest)
    (numElems : initial.numElems = offsets.length)
    (few : offsets.length ≤ 256)
    (inside : dest + offsets.length ≤ registers.length)
    (bound : registers.length < 2 ^ 31)
    (steps : Relation.ReflTransGen (Step ops coreRef this memory) wait last) :
    last.Waiting this initial offsets
        (fun offset => memory (initial.elementRead this offset).addr)
        registers dest ∨
      last.Resumed
        (fun position => ops.ofBits (memory
          (initial.elementRead this (offsets.getD position 0)).addr))
        dest offsets.length registers := by
  induction steps with
  | refl => exact Or.inl waiting
  | tail _ step inductionHypothesis =>
      rcases inductionHypothesis with waiting | resumed
      · exact waiting.step numElems few inside bound step
      · exact Or.inr (resumed.step step)

end Steps

variable [Zero F] [One F] [Add F] [Sub F] [Mul F] [Div F] [NatCast F]

/-- A GATHER makes the core wait for the reads of its offsets. -/
theorem waiting_start
    (ops : FloatOps F)
    (coreRef this : Nat)
    (memory : UInt64 → UInt32)
    (hardware : Option (SystolicArray F × ArrayFeeder F))
    {core : SIMDCore F}
    {piccolo : PiccoloGatherController}
    {inst : SIMDInstruction}
    {rest : List SIMDInstruction}
    (running : core.isStalled = false)
    (queue : core.instructionQueue = inst :: rest)
    (isGather : inst.op = .gather)
    (few : inst.elementsToGather ≤ 256)
    (destBound : inst.destReg.toNat < 2 ^ 31)
    (obCap : piccolo.ob.cap = 256)
    (dbCap : piccolo.db.cap = 256) :
    (start ops coreRef hardware core piccolo).Waiting this
      ((piccolo.setBaseAddr inst.memAddr).startBatch inst.elementsToGather
        (SIMDCore.gatherOffsets ops inst core.registers))
      (SIMDCore.gatherOffsets ops inst core.registers)
      (fun offset => memory
        (((piccolo.setBaseAddr inst.memAddr).startBatch inst.elementsToGather
          (SIMDCore.gatherOffsets ops inst core.registers)).elementRead this
            offset).addr)
      core.registers inst.destReg.toNat := by
  have next : start ops coreRef hardware core piccolo =
      { core :=
          { core with
            instructionQueue := rest
            pendingDestReg := inst.destReg.toNat
            isStalled := true
            isWaitingForPiccolo := true }
        batch :=
          { controller := (piccolo.setBaseAddr inst.memAddr).startBatch
              inst.elementsToGather
              (SIMDCore.gatherOffsets ops inst core.registers) } } := by
    simp only [start, SIMDCore.tick, running, queue, SIMDCore.issue, isGather,
      SIMDCore.popInstruction, List.tail_cons, toInt32_of_lt destBound,
      Bool.false_and, Bool.false_eq_true, if_false]
    rfl
  have based : (piccolo.setBaseAddr inst.memAddr).ob.cap ≤
      (piccolo.setBaseAddr inst.memAddr).db.cap :=
    (obCap.trans dbCap.symm).le
  have sound := GatherBatch.Sound.start this
    (piccolo.setBaseAddr inst.memAddr) inst.elementsToGather
    (SIMDCore.gatherOffsets ops inst core.registers) based
  have allKept : (SIMDCore.gatherOffsets ops inst core.registers).length ≤
      (piccolo.setBaseAddr inst.memAddr).ob.cap := by
    rw [length_gatherOffsets]
    exact few.trans obCap.ge
  rw [List.take_of_length_le allKept] at sound
  rw [next]
  exact
    { sound := sound
      popped := rfl
      nodup := List.nodup_nil
      values := rfl
      issued := List.forall_mem_nil _
      stalled := rfl
      gathering := rfl
      pending := rfl
      registers := rfl }

/-- When the core resumes after a GATHER, its registers hold the values of the
elements in the order in which the reads completed. -/
theorem gathered_of_steps
    (ops : FloatOps F)
    (coreRef this : Nat)
    (memory : UInt64 → UInt32)
    (hardware : Option (SystolicArray F × ArrayFeeder F))
    (core : SIMDCore F)
    (piccolo : PiccoloGatherController)
    (inst : SIMDInstruction)
    (rest : List SIMDInstruction)
    (numRegisters : UInt32)
    (size : core.registers.length = numRegisters.toNat)
    (running : core.isStalled = false)
    (queue : core.instructionQueue = inst :: rest)
    (isGather : inst.op = .gather)
    (few : inst.elementsToGather ≤ 256)
    (inRange : SIMDInstruction.InRange numRegisters inst.destReg
      inst.elementsToGather)
    (obCap : piccolo.ob.cap = 256)
    (dbCap : piccolo.db.cap = 256)
    {wait : GatherWait F}
    (steps : Relation.ReflTransGen (Step ops coreRef this memory)
      (start ops coreRef hardware core piccolo) wait)
    (resumed : wait.core.isStalled = false) :
    Gathered
      (fun position => ops.ofBits (memory (elementAddr piccolo inst.memAddr
        ((SIMDCore.gatherOffsets ops inst core.registers).getD position 0))))
      inst.destReg.toNat inst.elementsToGather core.registers
      wait.core.registers wait.order := by
  obtain ⟨bound, inside⟩ := inRange.bounds
  have started := waiting_start ops coreRef this memory hardware running queue
    isGather few (by omega) obCap dbCap
  have count := length_gatherOffsets ops inst core.registers
  rw [← count] at inside few
  rw [← size] at bound inside
  have reached := started.steps count.symm few inside bound steps
  rcases reached with waiting | resumed
  · exact absurd (waiting.stalled.symm.trans resumed) Bool.noConfusion
  · rw [← count]
    exact resumed.gathered

/-! ## Two elements, read in both orders -/

/-- Operations that agree with the library's on the registers and values
below. -/
def smallFloats : FloatOps ℚ :=
  { FloatOps.atZero with
    toUInt32 := fun x => UInt32.ofNat x.floor.toNat
    ofBits := fun bits =>
      if bits = 0x3f800000 then 1 else if bits = 0x40000000 then 2 else 0 }

/-- The value 1 is stored at address 4096, and 2 everywhere else. -/
def smallMemory (addr : UInt64) : UInt32 :=
  if addr = 4096 then 0x3f800000 else 0x40000000

/-- Gather the elements whose offsets are in registers 0 and 1 into registers
2 and 3. -/
def twoElements : SIMDInstruction :=
  { op := .gather, destReg := 2, src1Reg := 0, memAddr := 4096,
    sizeBytes := 8 }

/-- A core with four registers and offsets 0 and 1. -/
def smallCore : SIMDCore ℚ :=
  { SIMDCore.initial 0 0 0 0 4 with
    registers := [0, 1, 0, 0]
    instructionQueue := [twoElements] }

/-- A controller of four-byte elements. -/
def smallPiccolo : PiccoloGatherController :=
  { pcId := 0, baseAddr := 0, elemBytes := 4, numElems := 0 }

/-- Both reads have been issued. -/
def twoIssued : GatherWait ℚ :=
  ((start smallFloats 0 none smallCore smallPiccolo).issue 0).issue 0

/-- The read of the first element, at offset zero. -/
def firstRead : MemoryBurst :=
  GatherBatch.gatherRead 0 0 4096 4 0

/-- The read of the second element, at offset one. -/
def secondRead : MemoryBurst :=
  GatherBatch.gatherRead 0 0 4096 4 1

/-- The reads complete in the order of issue. -/
def forwards : GatherWait ℚ :=
  (((twoIssued.complete smallMemory 0 firstRead).complete smallMemory 1
    secondRead)).tickCore smallFloats 0 none

/-- The second read completes first. -/
def backwards : GatherWait ℚ :=
  (((twoIssued.complete smallMemory 1 secondRead).complete smallMemory 0
    firstRead)).tickCore smallFloats 0 none

theorem steps_forwards :
    Relation.ReflTransGen (Step smallFloats 0 0 smallMemory)
      (start smallFloats 0 none smallCore smallPiccolo) forwards :=
  ((((Relation.ReflTransGen.single (.issue _)).tail (.issue _)).tail
    (.read _ 0 firstRead (by decide +kernel) (by decide +kernel))).tail
    (.read _ 1 secondRead (by decide +kernel) (by decide +kernel))).tail
    (.core none _ (by decide +kernel))

theorem steps_backwards :
    Relation.ReflTransGen (Step smallFloats 0 0 smallMemory)
      (start smallFloats 0 none smallCore smallPiccolo) backwards :=
  ((((Relation.ReflTransGen.single (.issue _)).tail (.issue _)).tail
    (.read _ 1 secondRead (by decide +kernel) (by decide +kernel))).tail
    (.read _ 0 firstRead (by decide +kernel) (by decide +kernel))).tail
    (.core none _ (by decide +kernel))

theorem backwards_gathered :
    Gathered
      (fun position => smallFloats.ofBits (smallMemory (elementAddr smallPiccolo
        4096 ((SIMDCore.gatherOffsets smallFloats twoElements
          smallCore.registers).getD position 0))))
      2 2 smallCore.registers backwards.core.registers backwards.order :=
  gathered_of_steps smallFloats 0 0 smallMemory none smallCore smallPiccolo
    twoElements [] 4 rfl rfl rfl rfl (by decide) (by decide) rfl rfl
    steps_backwards (by decide +kernel)

/-- Both runs resume, with different registers: the second element's value
comes first when its read completes first. -/
theorem backwards_not_in_offset_order :
    Relation.ReflTransGen (Step smallFloats 0 0 smallMemory)
        (start smallFloats 0 none smallCore smallPiccolo) backwards ∧
      backwards.core.isStalled = false ∧
      backwards.core.registers = [0, 1, 2, 1] ∧
      Relation.ReflTransGen (Step smallFloats 0 0 smallMemory)
        (start smallFloats 0 none smallCore smallPiccolo) forwards ∧
      forwards.core.isStalled = false ∧
      forwards.core.registers = [0, 1, 1, 2] :=
  ⟨steps_backwards, by decide +kernel, by decide +kernel, steps_forwards,
    by decide +kernel, by decide +kernel⟩

end GatherWait

end PimGraphs
