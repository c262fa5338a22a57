import PimGraphs.Compute.Interpreter

/-!
# Programs under every timing

A core with its gather controller, where core ticks, issue ticks, completed
element reads and completed loads interleave in any order.  At every moment
the core is ready, waits for a load or waits for a gather; running the rest of
the program one instruction at a time, after the effect waited for, always
gives the outcome of the whole program.
-/

namespace PimGraphs

/-! ## What a wake-up writes -/

namespace SIMDCore

variable {F : Type}

/-- The number of lanes a reply copies, in natural numbers. -/
theorem toNat_replyCount
    {core : SIMDCore F}
    {pending : Nat}
    (isPending : (core.pendingDestReg % 2 ^ 64).toNat = pending)
    (small : core.registers.length < 2 ^ 64)
    (payload : Nat) :
    (core.replyCount payload).toNat =
      if core.registers.length < (pending + min 16 payload) % 2 ^ 64 then
        (2 ^ 64 - pending + core.registers.length) % 2 ^ 64
      else min 16 payload := by
  have count : (UInt64.ofNat (min 16 payload)).toNat = min 16 payload := by
    rw [UInt64.toNat_ofNat']
    omega
  have base : (UInt64.ofInt core.pendingDestReg).toNat = pending := by
    rw [UInt64.ofInt, UInt64.toNat_ofNat', isPending]
    omega
  have size : (UInt64.ofNat core.registers.length).toNat =
      core.registers.length := by
    rw [UInt64.toNat_ofNat']
    exact Nat.mod_eq_of_lt small
  unfold replyCount
  simp only [UInt64.lt_iff_toNat_lt, UInt64.toNat_add, count, base, size]
  split
  · rw [UInt64.toNat_sub, base, size]
  · exact count

/-- A reply in range copies as many lanes as the register file has left. -/
theorem replyCount_eq
    {core : SIMDCore F}
    {dest : Nat}
    (pending : core.pendingDestReg = dest)
    (inside : dest < core.registers.length)
    (bound : core.registers.length < 2 ^ 31) :
    (core.replyCount 16).toNat = min 16 (core.registers.length - dest) := by
  have isPending : (core.pendingDestReg % 2 ^ 64).toNat = dest := by
    rw [pending]
    omega
  rw [toNat_replyCount isPending (by omega)]
  split
  · omega
  · omega

/-- A reply writes its payload as far as the file goes and releases the
core. -/
theorem onMemoryReply_eq
    {core : SIMDCore F}
    {dest : Nat}
    (stalled : core.isStalled = true)
    (pending : core.pendingDestReg = dest)
    (inside : dest < core.registers.length)
    (bound : core.registers.length < 2 ^ 31)
    (value : F) :
    core.onMemoryReply (List.replicate 16 value) =
      { core with
        registers := core.registers.writeLanes dest (List.replicate 16 value)
        isStalled := false
        pendingDestReg := -1 } := by
  have accepts : (!core.isStalled || core.pendingDestReg == -1) = false := by
    rw [stalled, pending]
    simp only [Bool.not_true, Bool.false_or, beq_eq_false_iff_ne]
    omega
  have lanes : core.registers.writeLanes dest
      ((List.replicate 16 value).take
        (min 16 (core.registers.length - dest))) =
      core.registers.writeLanes dest (List.replicate 16 value) := by
    rw [← core.registers.writeLanes_take dest (List.replicate 16 value),
      List.take_replicate, List.take_replicate]
    congr 2
    omega
  unfold onMemoryReply
  rw [if_neg (Bool.eq_false_iff.mp accepts)]
  simp only [List.length_replicate, replyCount_eq pending inside bound,
    pending, lanes]

/-- Draining the data buffer writes what it holds of the batch, as far as the
file goes. -/
theorem drainDataBuffer_eq
    (ops : FloatOps F)
    (fuel lane batchSize : Nat)
    (core : SIMDCore F)
    (piccolo : PiccoloGatherController)
    {dest : Nat}
    (pending : core.pendingDestReg = dest)
    (enough : fuel = piccolo.db.size)
    (sizeBound : core.registers.length < 2 ^ 31)
    (batchBound : batchSize < 2 ^ 31) :
    ∃ db, db.cap = piccolo.db.cap ∧
      drainDataBuffer ops fuel lane batchSize core piccolo =
        ({ core with
            registers := core.registers.writeLanes (dest + lane : Nat)
              ((piccolo.db.contents.take (batchSize - lane)).map
                ops.ofBits) },
          { piccolo with db := db }) := by
  induction fuel generalizing lane core piccolo with
  | zero =>
      have nothing : piccolo.db.contents = [] := by
        rw [← List.length_eq_zero_iff, RingBuffer.length_contents, enough]
      refine ⟨piccolo.db, rfl, ?_⟩
      rw [nothing, List.take_nil, List.map_nil, Registers.writeLanes_nil]
      rfl
  | succ fuel inductionHypothesis =>
      have held : piccolo.db.size ≠ 0 := by omega
      have batch := toInt32_of_lt batchBound
      have size := toInt32_of_lt sizeBound
      have next : core.pendingDestReg + (lane : Int) = (dest + lane : Nat) := by
        rw [pending, Nat.cast_add]
      rw [drainDataBuffer]
      by_cases more : lane < batchSize ∧ dest + lane < core.registers.length
      · have popped : fuel = piccolo.popDb.db.size := by
          simp only [PiccoloGatherController.popDb, RingBuffer.pop,
            dif_neg held]
          omega
        let written := core.registers.writeInt (core.pendingDestReg + lane)
          (ops.ofBits piccolo.db.front)
        have sameLength : written.length = core.registers.length :=
          Registers.length_writeInt _ _ _
        obtain ⟨db, cap, drained⟩ := inductionHypothesis (lane + 1)
          { core with registers := written } piccolo.popDb pending popped
          (sameLength.trans_lt sizeBound)
        have one : batchSize - lane = batchSize - (lane + 1) + 1 := by omega
        have after : ((dest + lane : Nat) : Int) + 1 =
            (dest + (lane + 1) : Nat) := (Nat.cast_succ _).symm
        refine ⟨db, cap.trans (RingBuffer.cap_pop _), ?_⟩
        rw [if_pos ⟨held, by omega, by omega⟩,
          piccolo.db.contents_eq_front_cons held, one, List.take_succ_cons,
          List.map_cons, Registers.writeLanes_cons, after, ← next]
        exact drained
      · refine ⟨piccolo.db, rfl, ?_⟩
        rw [if_neg (by omega)]
        rcases Nat.lt_or_ge lane batchSize with inBatch | outside
        · have full : core.registers.length ≤ dest + lane := by omega
          rw [core.registers.writeLanes_of_le full]
        · rw [Nat.sub_eq_zero_of_le outside, List.take_zero, List.map_nil,
            Registers.writeLanes_nil]

end SIMDCore

/-! ## Interleavings -/

/-- A core and its gather controller, with what they have put out and how many
of their requests have completed. -/
structure CoreSystem (F : Type) where
  core : SIMDCore F
  piccolo : PiccoloGatherController
  /-- Vectors pushed to the feeder. -/
  pushes : List (Vec16 F) := []
  /-- Bursts handed to the router: those of the loads. -/
  bursts : List MemoryBurst := []
  /-- Element reads enqueued on the controller's port. -/
  reads : List MemoryBurst := []
  loadsCompleted : Nat := 0
  readsCompleted : Nat := 0

namespace CoreSystem

variable {F : Type}

/-- What the system has put out, and its register file. -/
def outcome (system : CoreSystem F) : Outcome F where
  registers := system.core.registers
  pushes := system.pushes
  bursts := system.bursts
  reads := system.reads

/-- An issue tick of the controller. -/
def tickIssue (wiring : Wiring) (system : CoreSystem F) : CoreSystem F :=
  { system with
    piccolo := (system.piccolo.tickIssue wiring.piccolo).1
    reads := system.reads ++
      (system.piccolo.tickIssue wiring.piccolo).2.toList }

/-- An element read completes, with the value its callback passes. -/
def completeRead (system : CoreSystem F) : CoreSystem F :=
  { system with
    piccolo := system.piccolo.onReadComplete 0
    readsCompleted := system.readsCompleted + 1 }

/-- A load completes, with the payload its callback passes. -/
def completeLoad [One F] (system : CoreSystem F) : CoreSystem F :=
  { system with
    core := system.core.onMemoryReply (List.replicate 16 1)
    loadsCompleted := system.loadsCompleted + 1 }

/-- The identities, capacities and remaining instructions of a system. -/
structure Wired
    (wiring : Wiring)
    (numRegisters : UInt32)
    (system : CoreSystem F) : Prop where
  pcId : system.core.pcId = wiring.pcId
  gatherPcId : system.piccolo.pcId = wiring.gatherPcId
  elemBytes : system.piccolo.elemBytes = wiring.elemBytes
  obCap : system.piccolo.ob.cap = 256
  dbCap : system.piccolo.db.cap = 256
  size : system.core.registers.length = numRegisters.toNat
  notGru : system.core.isWaitingForGru = false
  supported : ∀ inst ∈ system.core.instructionQueue,
    inst.Supported numRegisters

/-- The controller has nothing to issue and no read in flight. -/
structure Quiet (system : CoreSystem F) : Prop where
  offsets : system.piccolo.ob.size = 0
  reads : system.readsCompleted = system.reads.length

section Parts

variable {ops : FloatOps F} {wiring : Wiring} {numRegisters : UInt32}
variable {system : CoreSystem F}

/-- A system keeps its identities as long as its parts do. -/
theorem Wired.next
    {next : CoreSystem F}
    (wired : system.Wired wiring numRegisters)
    (pcId : next.core.pcId = system.core.pcId)
    (device : next.piccolo.SameDevice system.piccolo)
    (size : next.core.registers.length = system.core.registers.length)
    (notGru : next.core.isWaitingForGru = system.core.isWaitingForGru)
    (queue : next.core.instructionQueue ⊆ system.core.instructionQueue) :
    next.Wired wiring numRegisters where
  pcId := pcId.trans wired.pcId
  gatherPcId := device.pcId.trans wired.gatherPcId
  elemBytes := device.elemBytes.trans wired.elemBytes
  obCap := device.obCap.trans wired.obCap
  dbCap := device.dbCap.trans wired.dbCap
  size := size.trans wired.size
  notGru := notGru.trans wired.notGru
  supported := fun inst member => wired.supported inst (queue member)

/-- A quiet controller issues nothing. -/
theorem Quiet.tickIssue (quiet : system.Quiet) :
    system.tickIssue wiring = system := by
  have idle : system.piccolo.canIssue = false := by
    simp [PiccoloGatherController.canIssue, quiet.offsets]
  simp [CoreSystem.tickIssue, PiccoloGatherController.tickIssue, idle]

variable [Zero F]

/-- The batch a GATHER starts. -/
def batchOf
    (ops : FloatOps F)
    (system : CoreSystem F)
    (inst : SIMDInstruction) : PiccoloGatherController :=
  (system.piccolo.setBaseAddr inst.memAddr).startBatch inst.elementsToGather
    (SIMDCore.gatherOffsets ops inst system.core.registers)

theorem sameDevice_batchOf
    (ops : FloatOps F)
    (system : CoreSystem F)
    (inst : SIMDInstruction) :
    (system.batchOf ops inst).SameDevice system.piccolo :=
  have started :=
    (system.piccolo.setBaseAddr inst.memAddr).sameDevice_startBatch
      inst.elementsToGather
      (SIMDCore.gatherOffsets ops inst system.core.registers)
  ⟨started.pcId, started.elemBytes, started.obCap, started.dbCap⟩

theorem Wired.elementRead_batchOf
    (wired : system.Wired wiring numRegisters)
    (ops : FloatOps F)
    (inst : SIMDInstruction) :
    (system.batchOf ops inst).elementRead wiring.piccolo =
      GatherBatch.gatherRead wiring.piccolo wiring.gatherPcId inst.memAddr
        wiring.elemBytes := by
  have device := system.sameDevice_batchOf ops inst
  rw [GatherBatch.elementRead_eq_gatherRead, device.pcId, device.elemBytes,
    wired.gatherPcId, wired.elemBytes]
  rfl

theorem Wired.sound_batchOf
    (wired : system.Wired wiring numRegisters)
    (ops : FloatOps F)
    {inst : SIMDInstruction}
    (few : inst.elementsToGather ≤ 256) :
    GatherBatch.Sound wiring.piccolo (system.batchOf ops inst)
      (SIMDCore.gatherOffsets ops inst system.core.registers)
      { controller := system.batchOf ops inst } := by
  let based := system.piccolo.setBaseAddr inst.memAddr
  have obCap : based.ob.cap = 256 := wired.obCap
  have dbCap : based.db.cap = 256 := wired.dbCap
  have sound := GatherBatch.Sound.start wiring.piccolo based
    inst.elementsToGather
    (SIMDCore.gatherOffsets ops inst system.core.registers)
    (obCap.trans dbCap.symm).le
  rwa [obCap, List.take_of_length_le
    ((length_gatherOffsets ops inst _).trans_le few)] at sound

end Parts

variable [Zero F] [One F] [Add F] [Sub F] [Mul F] [Div F] [NatCast F]

/-- A tick of the core. -/
def tickCore
    (ops : FloatOps F)
    (wiring : Wiring)
    (hardware : Option (SystolicArray F × ArrayFeeder F))
    (system : CoreSystem F) : CoreSystem F :=
  let result := system.core.tick ops wiring.core system.piccolo hardware
  { system with
    core := result.core
    piccolo := result.piccolo
    pushes := system.pushes ++ result.pushed.toList
    bursts := system.bursts ++ result.request.toList }

/-- What can happen next; every request completes exactly once. -/
inductive Step (ops : FloatOps F) (wiring : Wiring) :
    CoreSystem F → CoreSystem F → Prop
  | core (hardware : Option (SystolicArray F × ArrayFeeder F))
      (system : CoreSystem F) :
      Step ops wiring system (system.tickCore ops wiring hardware)
  | issue (system : CoreSystem F) :
      Step ops wiring system (system.tickIssue wiring)
  | read (system : CoreSystem F) :
      system.readsCompleted < system.reads.length →
        Step ops wiring system system.completeRead
  | load (system : CoreSystem F) :
      system.loadsCompleted < system.bursts.length →
        Step ops wiring system system.completeLoad

/-! ## The three conditions a core can be in -/

/-- The core executes its next instruction in its next tick. -/
structure Ready
    (ops : FloatOps F)
    (wiring : Wiring)
    (numRegisters : UInt32)
    (final : Outcome F)
    (system : CoreSystem F) : Prop where
  wired : system.Wired wiring numRegisters
  quiet : system.Quiet
  running : system.core.isStalled = false
  notGathering : system.core.isWaitingForPiccolo = false
  loads : system.loadsCompleted = system.bursts.length
  rest : interpret ops wiring system.core.instructionQueue system.outcome =
    final

/-- The core waits for a reply into the registers from `dest`. -/
structure Loading
    (ops : FloatOps F)
    (wiring : Wiring)
    (numRegisters : UInt32)
    (final : Outcome F)
    (dest : Nat)
    (system : CoreSystem F) : Prop where
  wired : system.Wired wiring numRegisters
  quiet : system.Quiet
  stalled : system.core.isStalled = true
  notGathering : system.core.isWaitingForPiccolo = false
  pending : system.core.pendingDestReg = dest
  inside : dest < numRegisters.toNat
  bound : numRegisters.toNat < 2 ^ 31
  loads : system.loadsCompleted + 1 = system.bursts.length
  rest : interpret ops wiring system.core.instructionQueue
    { system.outcome with
      registers := system.core.registers.writeLanes dest
        (List.replicate 16 1) } = final

/-- The core waits for a batch into the registers from `dest`. -/
structure Gathering
    (ops : FloatOps F)
    (wiring : Wiring)
    (numRegisters : UInt32)
    (final : Outcome F)
    (dest : Nat)
    (initial : PiccoloGatherController)
    (offsets : List UInt32)
    (earlier : List MemoryBurst)
    (batch : GatherBatch)
    (system : CoreSystem F) : Prop where
  wired : system.Wired wiring numRegisters
  controller : batch.controller = system.piccolo
  sound : batch.Sound wiring.piccolo initial offsets
  zeros : ∀ value ∈ batch.values, value = 0
  popped : batch.popped = []
  reads : system.reads = earlier ++ batch.reads
  completed : system.readsCompleted = earlier.length + batch.values.length
  numElems : initial.numElems = offsets.length
  few : offsets.length ≤ 256
  stalled : system.core.isStalled = true
  gathering : system.core.isWaitingForPiccolo = true
  pending : system.core.pendingDestReg = dest
  bound : numRegisters.toNat < 2 ^ 31
  loads : system.loadsCompleted = system.bursts.length
  rest : interpret ops wiring system.core.instructionQueue
    { system.outcome with
      registers := system.core.registers.writeLanes dest
        (List.replicate offsets.length (ops.ofBits 0))
      reads := earlier ++
        offsets.map (initial.elementRead wiring.piccolo) } = final

/-- One of the three conditions, with the outcome that is being worked
towards. -/
def Heads
    (ops : FloatOps F)
    (wiring : Wiring)
    (numRegisters : UInt32)
    (final : Outcome F)
    (system : CoreSystem F) : Prop :=
  system.Ready ops wiring numRegisters final ∨
    (∃ dest, system.Loading ops wiring numRegisters final dest) ∨
      ∃ dest initial offsets earlier batch,
        system.Gathering ops wiring numRegisters final dest initial offsets
          earlier batch

section Steps

variable {ops : FloatOps F} {wiring : Wiring} {numRegisters : UInt32}
variable {final : Outcome F} {system : CoreSystem F}

/-- A stalled core that waits for a reply does nothing. -/
theorem tickCore_of_stalled
    (stalled : system.core.isStalled = true)
    (notGathering : system.core.isWaitingForPiccolo = false)
    (notGru : system.core.isWaitingForGru = false)
    (hardware : Option (SystolicArray F × ArrayFeeder F)) :
    system.tickCore ops wiring hardware = system := by
  simp [tickCore, SIMDCore.tick, stalled, notGathering, notGru]

theorem tickCore_of_done
    (running : system.core.isStalled = false)
    (empty : system.core.instructionQueue = [])
    (hardware : Option (SystolicArray F × ArrayFeeder F)) :
    system.tickCore ops wiring hardware = system := by
  simp [tickCore, SIMDCore.tick, running, empty]

theorem tick_of_running
    {inst : SIMDInstruction}
    {rest : List SIMDInstruction}
    (running : system.core.isStalled = false)
    (queue : system.core.instructionQueue = inst :: rest)
    (hardware : Option (SystolicArray F × ArrayFeeder F)) :
    system.core.tick ops wiring.core system.piccolo hardware =
      system.core.issue ops wiring.core inst system.piccolo hardware := by
  simp [SIMDCore.tick, running, queue]

/-- A reply releases a core that waits for it. -/
theorem Loading.completeLoad
    {dest : Nat}
    (loading : system.Loading ops wiring numRegisters final dest) :
    system.completeLoad.Ready ops wiring numRegisters final := by
  have size := loading.wired.size
  have inside := loading.inside
  have bound := loading.bound
  rw [← size] at inside bound
  have released := SIMDCore.onMemoryReply_eq loading.stalled loading.pending
    inside bound (1 : F)
  have wired : system.completeLoad.Wired wiring numRegisters := by
    refine loading.wired.next ?_ ⟨rfl, rfl, rfl, rfl⟩ ?_ ?_ ?_
    all_goals simp only [CoreSystem.completeLoad, released,
      Registers.length_writeLanes]
    exact List.Subset.refl _
  unfold CoreSystem.completeLoad at wired ⊢
  rw [released] at wired ⊢
  exact
    { wired := wired
      quiet := ⟨loading.quiet.offsets, loading.quiet.reads⟩
      running := rfl
      notGathering := loading.notGathering
      loads := loading.loads
      rest := by simpa only [outcome] using loading.rest }

section Instruction

variable {inst : SIMDInstruction} {rest : List SIMDInstruction}
  (ready : system.Ready ops wiring numRegisters final)
  (queue : system.core.instructionQueue = inst :: rest)
  (hardware : Option (SystolicArray F × ArrayFeeder F))
include ready queue

theorem Ready.supported : inst.Supported numRegisters :=
  ready.wired.supported inst (queue ▸ List.mem_cons_self)

theorem Ready.interpret_tail :
    interpret ops wiring rest (inst.interpret ops wiring system.outcome) =
      final := by
  have whole := ready.rest
  rw [queue] at whole
  exact whole

/-- A LOAD makes the core wait. -/
theorem Ready.tickCore_load (op : inst.op = .load) :
    (system.tickCore ops wiring hardware).Loading ops wiring numRegisters final
      inst.destReg.toNat := by
  obtain ⟨bound, inside⟩ := ((ready.supported queue).load op).bounds
  have small : inst.destReg.toNat < 2 ^ 31 := by omega
  have next : system.tickCore ops wiring hardware =
      { system with
        core :=
          { system.core with
            instructionQueue := rest
            pendingDestReg := inst.destReg.toNat
            isStalled := true }
        bursts := system.bursts ++
          [SIMDCore.loadBurst wiring.core wiring.pcId inst] } := by
    simp only [tickCore, tick_of_running ready.running queue, SIMDCore.issue,
      op, SIMDCore.popInstruction, queue, List.tail_cons, toInt32_of_lt small,
      Option.toList_none, Option.toList_some, List.append_nil,
      ready.wired.pcId]
  have remaining := ready.interpret_tail queue
  rw [next]
  exact
    { wired := ready.wired.next rfl ⟨rfl, rfl, rfl, rfl⟩ rfl rfl
        (queue ▸ List.subset_cons_self inst rest)
      quiet := ⟨ready.quiet.offsets, ready.quiet.reads⟩
      stalled := rfl
      notGathering := ready.notGathering
      pending := rfl
      inside := inside
      bound := bound
      loads := by
        rw [List.length_append, ready.loads]
        rfl
      rest := by
        simpa only [SIMDInstruction.interpret, op, outcome] using remaining }

/-- A vector is pushed at once. -/
theorem Ready.tickCore_pushArr (op : inst.op = .pushArr) :
    (system.tickCore ops wiring hardware).Ready ops wiring numRegisters
      final := by
  have next : system.tickCore ops wiring hardware =
      { system with
        core := { system.core with instructionQueue := rest }
        pushes := system.pushes ++
          [SIMDCore.pushOperand inst system.core.registers] } := by
    simp only [tickCore, tick_of_running ready.running queue, SIMDCore.issue,
      op, SIMDCore.popInstruction, queue, List.tail_cons,
      Option.toList_none, Option.toList_some, List.append_nil]
  have remaining := ready.interpret_tail queue
  rw [next]
  exact
    { wired := ready.wired.next rfl ⟨rfl, rfl, rfl, rfl⟩ rfl rfl
        (queue ▸ List.subset_cons_self inst rest)
      quiet := ⟨ready.quiet.offsets, ready.quiet.reads⟩
      running := ready.running
      notGathering := ready.notGathering
      loads := ready.loads
      rest := by
        simpa only [SIMDInstruction.interpret, op, outcome] using remaining }

/-- The other instructions only change registers. -/
theorem Ready.tickCore_registers
    (notLoad : inst.op ≠ .load)
    (notGather : inst.op ≠ .gather)
    (notPush : inst.op ≠ .pushArr) :
    (system.tickCore ops wiring hardware).Ready ops wiring numRegisters
      final := by
  have notGru := (ready.supported queue).notGru
  have next : system.tickCore ops wiring hardware =
      { system with
        core :=
          { system.core with
            instructionQueue := rest
            registers :=
              SIMDCore.executeRegisters ops inst system.core.registers } } := by
    cases op : inst.op <;> first
      | exact absurd op ‹_›
      | simp only [tickCore, tick_of_running ready.running queue,
          SIMDCore.issue, op, SIMDCore.popInstruction, queue, List.tail_cons,
          Option.toList_none, List.append_nil]
  have same : inst.interpret ops wiring system.outcome =
      { system.outcome with
        registers :=
          SIMDCore.executeRegisters ops inst system.core.registers } := by
    cases op : inst.op <;> first
      | exact absurd op ‹_›
      | simp only [SIMDInstruction.interpret, op, outcome]
  have remaining := ready.interpret_tail queue
  rw [same] at remaining
  rw [next]
  exact
    { wired := ready.wired.next rfl ⟨rfl, rfl, rfl, rfl⟩
        (length_executeRegisters ops inst _) rfl
        (queue ▸ List.subset_cons_self inst rest)
      quiet := ⟨ready.quiet.offsets, ready.quiet.reads⟩
      running := ready.running
      notGathering := ready.notGathering
      loads := ready.loads
      rest := by simpa only [outcome] using remaining }

/-- A GATHER starts a batch. -/
theorem Ready.tickCore_gather (op : inst.op = .gather) :
    (system.tickCore ops wiring hardware).Gathering ops wiring numRegisters
      final inst.destReg.toNat (system.batchOf ops inst)
      (SIMDCore.gatherOffsets ops inst system.core.registers) system.reads
      { controller := system.batchOf ops inst } := by
  obtain ⟨inRange, -, few⟩ := (ready.supported queue).gather op
  obtain ⟨bound, inside⟩ := inRange.bounds
  have small : inst.destReg.toNat < 2 ^ 31 := by omega
  have next : system.tickCore ops wiring hardware =
      { system with
        core :=
          { system.core with
            instructionQueue := rest
            pendingDestReg := inst.destReg.toNat
            isStalled := true
            isWaitingForPiccolo := true }
        piccolo := system.batchOf ops inst } := by
    simp only [tickCore, tick_of_running ready.running queue, SIMDCore.issue,
      op, SIMDCore.popInstruction, queue, List.tail_cons, toInt32_of_lt small,
      Option.toList_none, List.append_nil]
    rfl
  have count := length_gatherOffsets ops inst system.core.registers
  have reads := ready.wired.elementRead_batchOf ops inst
  have remaining := ready.interpret_tail queue
  rw [next]
  exact
    { wired := ready.wired.next rfl (system.sameDevice_batchOf ops inst) rfl
        rfl (queue ▸ List.subset_cons_self inst rest)
      controller := rfl
      sound := ready.wired.sound_batchOf ops few
      zeros := fun _ member => absurd member List.not_mem_nil
      popped := rfl
      reads := (List.append_nil _).symm
      completed := ready.quiet.reads
      numElems := count.symm
      few := count.trans_le few
      stalled := rfl
      gathering := rfl
      pending := rfl
      bound := bound
      loads := ready.loads
      rest := by
        simpa only [SIMDInstruction.interpret, op, outcome, reads, count]
          using remaining }

/-- A ready core executes the next instruction of its program. -/
theorem Ready.tickCore_inst :
    (system.tickCore ops wiring hardware).Heads ops wiring numRegisters
      final := by
  by_cases isLoad : inst.op = .load
  · exact Or.inr (Or.inl ⟨_, ready.tickCore_load queue hardware isLoad⟩)
  by_cases isGather : inst.op = .gather
  · exact Or.inr (Or.inr
      ⟨_, _, _, _, _, ready.tickCore_gather queue hardware isGather⟩)
  by_cases isPush : inst.op = .pushArr
  · exact Or.inl (ready.tickCore_pushArr queue hardware isPush)
  · exact Or.inl
      (ready.tickCore_registers queue hardware isLoad isGather isPush)

end Instruction

section Batch

variable {dest : Nat} {initial : PiccoloGatherController}
variable {offsets : List UInt32} {earlier : List MemoryBurst}
variable {batch : GatherBatch}
variable (gathering : system.Gathering ops wiring numRegisters final dest
  initial offsets earlier batch)
include gathering

/-- An issue tick of the controller is one of the batch. -/
theorem Gathering.tickIssue :
    (system.tickIssue wiring).Gathering ops wiring numRegisters final dest
      initial offsets earlier (batch.issue wiring.piccolo) := by
  have device :=
    (system.piccolo.sameBatch_tickIssue wiring.piccolo).toSameDevice
  have controller := gathering.controller
  exact
    { wired := gathering.wired.next rfl device rfl rfl (List.Subset.refl _)
      controller := by
        simp only [GatherBatch.issue, CoreSystem.tickIssue, controller]
      sound := gathering.sound.issue
      zeros := gathering.zeros
      popped := gathering.popped
      reads := by
        simp only [GatherBatch.issue, CoreSystem.tickIssue, controller,
          gathering.reads, List.append_assoc]
      completed := gathering.completed
      numElems := gathering.numElems
      few := gathering.few
      stalled := gathering.stalled
      gathering := gathering.gathering
      pending := gathering.pending
      bound := gathering.bound
      loads := gathering.loads
      rest := by
        simpa only [CoreSystem.tickIssue, outcome] using gathering.rest }

/-- So is a completed read. -/
theorem Gathering.completeRead
    (inFlight : system.readsCompleted < system.reads.length) :
    system.completeRead.Gathering ops wiring numRegisters final dest initial
      offsets earlier (batch.complete 0) := by
  have device := (system.piccolo.sameBatch_onReadComplete 0).toSameDevice
  have batchInFlight : batch.values.length < batch.reads.length := by
    rw [gathering.completed, gathering.reads, List.length_append] at inFlight
    exact Nat.add_lt_add_iff_left.mp inFlight
  exact
    { wired := gathering.wired.next rfl device rfl rfl (List.Subset.refl _)
      controller := by
        simp only [GatherBatch.complete, CoreSystem.completeRead,
          gathering.controller]
      sound := gathering.sound.complete 0 batchInFlight
      zeros := List.forall_mem_append.mpr
        ⟨gathering.zeros, fun _ member => List.mem_singleton.mp member⟩
      popped := gathering.popped
      reads := gathering.reads
      completed := by
        simp only [CoreSystem.completeRead, GatherBatch.complete,
          List.length_append, List.length_singleton, gathering.completed,
          Nat.add_assoc]
      numElems := gathering.numElems
      few := gathering.few
      stalled := gathering.stalled
      gathering := gathering.gathering
      pending := gathering.pending
      bound := gathering.bound
      loads := gathering.loads
      rest := by
        simpa only [CoreSystem.completeRead, outcome] using gathering.rest }

/-- While reads are missing the core does nothing. -/
theorem Gathering.tickCore_of_missing
    (missing : system.piccolo.done = false)
    (hardware : Option (SystolicArray F × ArrayFeeder F)) :
    system.tickCore ops wiring hardware = system := by
  simp [tickCore, SIMDCore.tick, SIMDCore.tickPiccoloWait, gathering.stalled,
    gathering.gathering, missing]

/-- When all reads have completed, all offsets have been read and the data
buffer holds a zero for each. -/
theorem Gathering.complete
    (done : system.piccolo.done = true) :
    system.piccolo.ob.size = 0 ∧
      batch.reads = offsets.map (initial.elementRead wiring.piccolo) ∧
        system.piccolo.db.contents = List.replicate offsets.length 0 ∧
          batch.values.length = offsets.length := by
  have sound := gathering.sound
  rw [← gathering.controller] at done ⊢
  have all : batch.values.length = offsets.length :=
    (sound.done_iff.mp done).trans gathering.numElems
  have issued : batch.controller.issued = offsets.length := by
    have balance := sound.balance
    have kept := sound.issued_le_kept
    have completed := sound.completed
    omega
  have buffered : batch.controller.db.contents = batch.values := by
    rw [← sound.values, gathering.popped, List.nil_append]
  refine ⟨?_, ?_, ?_, all⟩
  · rw [← RingBuffer.length_contents, sound.waiting, issued, List.drop_length,
      List.length_nil]
  · rw [sound.reads, issued, List.take_length]
  · rw [buffered]
    exact List.eq_replicate_iff.mpr ⟨all, gathering.zeros⟩

/-- When all reads have completed the core takes the values and goes on. -/
theorem Gathering.tickCore_of_done
    (done : system.piccolo.done = true)
    (hardware : Option (SystolicArray F × ArrayFeeder F)) :
    (system.tickCore ops wiring hardware).Ready ops wiring numRegisters
      final := by
  obtain ⟨noOffsets, reads, values, all⟩ := gathering.complete done
  have size := gathering.wired.size
  have elems : system.piccolo.numElems = offsets.length := by
    rw [← gathering.controller, gathering.sound.same.numElems,
      gathering.numElems]
  have sizeBound : system.core.registers.length < 2 ^ 31 := by
    rw [size]
    exact gathering.bound
  have batchBound : offsets.length < 2 ^ 31 :=
    gathering.few.trans_lt (by decide)
  obtain ⟨db, cap, drained⟩ := SIMDCore.drainDataBuffer_eq ops
    system.piccolo.db.size 0 offsets.length system.core system.piccolo
    gathering.pending rfl sizeBound batchBound
  rw [values, Nat.sub_zero, Nat.add_zero, List.take_replicate, Nat.min_self,
    List.map_replicate, Nat.cast_zero] at drained
  have next : system.tickCore ops wiring hardware =
      { system with
        core :=
          { system.core with
            registers := system.core.registers.writeLanes dest
              (List.replicate offsets.length (ops.ofBits 0))
            isStalled := false
            isWaitingForPiccolo := false
            pendingDestReg := -1 }
        piccolo := { system.piccolo with db := db } } := by
    simp only [tickCore, SIMDCore.tick, SIMDCore.tickPiccoloWait,
      gathering.stalled, gathering.gathering, done, elems, drained,
      SIMDCore.resume, Bool.and_self, if_true, Option.toList_none,
      List.append_nil]
  have remaining := gathering.rest
  rw [next]
  exact
    { wired := gathering.wired.next rfl ⟨rfl, rfl, rfl, cap⟩
        (Registers.length_writeLanes _ _ _) rfl (List.Subset.refl _)
      quiet :=
        { offsets := noOffsets
          reads := by
            simp only [gathering.completed, gathering.reads, reads, all,
              List.length_append, List.length_map] }
      running := rfl
      notGathering := rfl
      loads := gathering.loads
      rest := by
        simpa only [outcome, gathering.reads, reads] using remaining }

end Batch

/-! ## Steps and runs -/

theorem Ready.tickCore
    (ready : system.Ready ops wiring numRegisters final)
    (hardware : Option (SystolicArray F × ArrayFeeder F)) :
    (system.tickCore ops wiring hardware).Heads ops wiring numRegisters
      final := by
  cases queue : system.core.instructionQueue with
  | nil =>
      rw [tickCore_of_done ready.running queue]
      exact Or.inl ready
  | cons inst rest => exact ready.tickCore_inst queue hardware

/-- Whatever happens next, the system keeps working towards the same
outcome. -/
theorem Heads.step
    {next : CoreSystem F}
    (heads : system.Heads ops wiring numRegisters final)
    (step : Step ops wiring system next) :
    next.Heads ops wiring numRegisters final := by
  rcases heads with ready | ⟨dest, loading⟩ |
    ⟨dest, initial, offsets, earlier, batch, gathering⟩
  · cases step with
    | core hardware => exact ready.tickCore hardware
    | issue =>
        rw [ready.quiet.tickIssue]
        exact Or.inl ready
    | read _ inFlight => exact absurd ready.quiet.reads inFlight.ne
    | load _ inFlight => exact absurd ready.loads inFlight.ne
  · cases step with
    | core hardware =>
        rw [tickCore_of_stalled loading.stalled loading.notGathering
          loading.wired.notGru]
        exact Or.inr (Or.inl ⟨dest, loading⟩)
    | issue =>
        rw [loading.quiet.tickIssue]
        exact Or.inr (Or.inl ⟨dest, loading⟩)
    | read _ inFlight => exact absurd loading.quiet.reads inFlight.ne
    | load _ => exact Or.inl loading.completeLoad
  · cases step with
    | core hardware =>
        cases done : system.piccolo.done with
        | true => exact Or.inl (gathering.tickCore_of_done done hardware)
        | false =>
            rw [gathering.tickCore_of_missing done]
            exact Or.inr (Or.inr ⟨_, _, _, _, _, gathering⟩)
    | issue => exact Or.inr (Or.inr ⟨_, _, _, _, _, gathering.tickIssue⟩)
    | read _ inFlight =>
        exact Or.inr (Or.inr ⟨_, _, _, _, _, gathering.completeRead inFlight⟩)
    | load _ inFlight => exact absurd gathering.loads inFlight.ne

theorem Heads.steps
    {last : CoreSystem F}
    (heads : system.Heads ops wiring numRegisters final)
    (steps : Relation.ReflTransGen (Step ops wiring) system last) :
    last.Heads ops wiring numRegisters final := by
  induction steps with
  | refl => exact heads
  | tail _ step inductionHypothesis => exact inductionHypothesis.step step

/-- A core that is done has arrived at the outcome. -/
theorem Heads.outcome_of_isDone
    (heads : system.Heads ops wiring numRegisters final)
    (done : system.core.isDone = true) :
    system.outcome = final := by
  rw [SIMDCore.isDone, Bool.and_eq_true, List.isEmpty_iff,
    Bool.not_eq_true'] at done
  obtain ⟨empty, running⟩ := done
  rcases heads with ready | ⟨dest, loading⟩ |
    ⟨dest, initial, offsets, earlier, batch, gathering⟩
  · have arrived := ready.rest
    rw [empty] at arrived
    exact arrived
  · exact absurd (loading.stalled.symm.trans running) Bool.noConfusion
  · exact absurd (gathering.stalled.symm.trans running) Bool.noConfusion

end Steps

/-- A core that has just loaded a program, and its controller. -/
def start
    (core : SIMDCore F)
    (piccolo : PiccoloGatherController)
    (program : List SIMDInstruction) : CoreSystem F where
  core := core.loadProgram program
  piccolo := piccolo

/-- Whenever a program is done, its outcome is that of running it one
instruction at a time, for every interleaving of core ticks, issue ticks and
completions. -/
theorem outcome_eq_interpret
    (ops : FloatOps F)
    (this piccoloRef : Nat)
    (core : SIMDCore F)
    (piccolo : PiccoloGatherController)
    (program : List SIMDInstruction)
    (numRegisters : UInt32)
    (size : core.registers.length = numRegisters.toNat)
    (noOffsets : piccolo.ob.size = 0)
    (obCap : piccolo.ob.cap = 256)
    (dbCap : piccolo.db.cap = 256)
    (supported : ∀ inst ∈ program, inst.Supported numRegisters)
    {system : CoreSystem F}
    (steps : Relation.ReflTransGen
      (Step ops
        ⟨this, core.pcId, piccoloRef, piccolo.pcId, piccolo.elemBytes⟩)
      (start core piccolo program) system)
    (done : system.core.isDone = true) :
    system.outcome =
      interpret ops
        ⟨this, core.pcId, piccoloRef, piccolo.pcId, piccolo.elemBytes⟩
        program { registers := core.registers } := by
  have ready : (start core piccolo program).Ready ops
      ⟨this, core.pcId, piccoloRef, piccolo.pcId, piccolo.elemBytes⟩
      numRegisters
      (interpret ops
        ⟨this, core.pcId, piccoloRef, piccolo.pcId, piccolo.elemBytes⟩
        program { registers := core.registers }) :=
    { wired :=
        { pcId := rfl
          gatherPcId := rfl
          elemBytes := rfl
          obCap := obCap
          dbCap := dbCap
          size := size
          notGru := rfl
          supported := supported }
      quiet := ⟨noOffsets, rfl⟩
      running := rfl
      notGathering := rfl
      loads := rfl
      rest := rfl }
  have heads : (start core piccolo program).Heads ops _ numRegisters _ :=
    Or.inl ready
  exact (heads.steps steps).outcome_of_isDone done

/-- A load, a gather of two elements into the registers behind it, and a
sum. -/
def loadGatherAdd : List SIMDInstruction :=
  [{ op := .load }, { op := .gather, destReg := 16, sizeBytes := 8 },
    { op := .addVec, destReg := 1, src1Reg := 0, src2Reg := 16 }]

/-- A core with 32 registers before it runs this program. -/
def smallSystem : CoreSystem ℚ :=
  start (SIMDCore.initial 0 0 0 0 32)
    { pcId := 0, baseAddr := 0, elemBytes := 4, numElems := 0 } loadGatherAdd

/-- Both reads are issued, one before the other completes. -/
def smallSystemGathering : CoreSystem ℚ :=
  let loaded := (smallSystem.tickCore FloatOps.atZero
    ⟨0, 0, 0, 0, 4⟩ none).completeLoad
  ((loaded.tickCore FloatOps.atZero ⟨0, 0, 0, 0, 4⟩ none).tickIssue
    ⟨0, 0, 0, 0, 4⟩).tickIssue ⟨0, 0, 0, 0, 4⟩

theorem smallSystem_outcome :
    (((smallSystemGathering.completeRead.completeRead).tickCore
        FloatOps.atZero ⟨0, 0, 0, 0, 4⟩ none).tickCore
        FloatOps.atZero ⟨0, 0, 0, 0, 4⟩ none).outcome =
      interpret FloatOps.atZero ⟨0, 0, 0, 0, 4⟩ loadGatherAdd
        { registers := List.replicate 32 0 } := by
  have gathering : Relation.ReflTransGen
      (Step FloatOps.atZero ⟨0, 0, 0, 0, 4⟩) smallSystem
        smallSystemGathering :=
    ((((Relation.ReflTransGen.single (.core none _)).tail
      (.load _ (by decide +kernel))).tail (.core none _)).tail
      (.issue _)).tail (.issue _)
  have completed := ((gathering.tail (.read _ (by decide +kernel))).tail
    (.read _ (by decide +kernel)))
  refine outcome_eq_interpret FloatOps.atZero 0 0 (SIMDCore.initial 0 0 0 0 32)
    { pcId := 0, baseAddr := 0, elemBytes := 4, numElems := 0 } loadGatherAdd
    32 rfl rfl rfl rfl ?_ ((completed.tail (.core none _)).tail (.core none _))
    (by decide +kernel)
  intro inst member
  simp only [loadGatherAdd, List.mem_cons, List.not_mem_nil, or_false]
    at member
  rcases member with rfl | rfl | rfl
  all_goals constructor <;> decide

end CoreSystem

end PimGraphs
