import PimGraphs.Compute.VaultFrame
import PimGraphs.Memory.GatherBatch

/-!
# What a gather controller is left alone by

A core keeps its router and its gather controller for good.  The turn of a core
that refers to another controller, or has nothing left to gather, does not
change a gather controller, and neither does the tick of a vertex program that
does not refer to it.
-/

namespace PimGraphs

/-! ## The other cores -/

namespace SIMDCore

variable {F : Type}

/-- The same router and the same gather controller. -/
structure SameLinks (before after : SIMDCore F) : Prop where
  router : after.router = before.router
  piccolo : after.piccolo = before.piccolo

theorem SameLinks.refl (core : SIMDCore F) : core.SameLinks core := ⟨rfl, rfl⟩

/-- A core that uses a controller neither waits for it nor will. -/
def LeavesController (controller : Nat) (core : SIMDCore F) : Prop :=
  core.piccolo = controller →
    core.isWaitingForPiccolo = false ∧
      ∀ inst ∈ core.instructionQueue, inst.op ≠ .gather

theorem sameLinks_onMemoryReply
    (core : SIMDCore F)
    (burstData : List F) :
    core.SameLinks (core.onMemoryReply burstData) := by
  unfold onMemoryReply
  split
  · exact .refl core
  · exact ⟨rfl, rfl⟩

/-- Replies start no gather. -/
theorem LeavesController.onMemoryReply
    {controller : Nat}
    {core : SIMDCore F}
    (leaves : core.LeavesController controller)
    (burstData : List F) :
    (core.onMemoryReply burstData).LeavesController controller := by
  unfold SIMDCore.onMemoryReply
  split
  · exact leaves
  · exact leaves

/-- Draining keeps all of the core but its registers, and all of the
controller but its data buffer. -/
theorem drainDataBuffer_keeps
    (ops : FloatOps F)
    (fuel batchSize : Nat)
    (i : Int)
    (core : SIMDCore F)
    (piccolo : PiccoloGatherController) :
    ∃ registers db,
      drainDataBuffer ops fuel i batchSize core piccolo =
        ({ core with registers := registers },
          { piccolo with db := db }) := by
  induction fuel generalizing i core piccolo with
  | zero => exact ⟨core.registers, piccolo.db, rfl⟩
  | succ fuel inductionHypothesis =>
      rw [drainDataBuffer]
      split
      · obtain ⟨registers, db, drained⟩ := inductionHypothesis (i + 1)
          { core with
            registers := core.registers.writeInt (core.pendingDestReg + i)
              (ops.ofBits piccolo.db.front) } piccolo.popDb
        exact ⟨registers, db, drained⟩
      · exact ⟨core.registers, piccolo.db, rfl⟩

/-- The wait for the controller goes on, or ends with the registers and the
data buffer changed. -/
theorem tickPiccoloWait_cases
    (ops : FloatOps F)
    (core : SIMDCore F)
    (piccolo : PiccoloGatherController) :
    piccolo.done = false ∧
        core.tickPiccoloWait ops piccolo = (core, piccolo) ∨
      piccolo.done = true ∧ ∃ registers db,
        core.tickPiccoloWait ops piccolo =
          (({ core with registers := registers } : SIMDCore F).resume,
            { piccolo with db := db }) := by
  cases done : piccolo.done with
  | false =>
      refine Or.inl ⟨rfl, ?_⟩
      rw [tickPiccoloWait, done]
      exact if_neg Bool.false_ne_true
  | true =>
      obtain ⟨registers, db, drained⟩ := drainDataBuffer_keeps ops
        piccolo.db.size piccolo.numElems 0 core piccolo
      refine Or.inr ⟨rfl, registers, db, ?_⟩
      rw [tickPiccoloWait, done, if_pos rfl, drained]

/-- What every tick of a core keeps, and where its request comes from. -/
structure TickKeeps
    (this : Nat)
    (core : SIMDCore F)
    (piccolo : PiccoloGatherController)
    (result : TickResult F) : Prop where
  links : core.SameLinks result.core
  queue : result.core.instructionQueue ⊆ core.instructionQueue
  elemBytes : result.piccolo.elemBytes = piccolo.elemBytes
  maxOutstanding : result.piccolo.maxOutstanding = piccolo.maxOutstanding
  request : ∀ burst, result.request = some burst →
    ∃ inst ∈ core.instructionQueue, inst.op = .load ∧
      burst = loadBurst this core.pcId inst

section Tick

variable [Zero F] [One F] [Add F] [Sub F] [Mul F] [Div F] [NatCast F]
variable (ops : FloatOps F) (this : Nat) (core : SIMDCore F)
variable (piccolo : PiccoloGatherController)
variable (hardware : Option (SystolicArray F × ArrayFeeder F))

omit [Sub F] in
theorem tickKeeps_issue
    {inst : SIMDInstruction}
    {rest : List SIMDInstruction}
    (queue : core.instructionQueue = inst :: rest) :
    TickKeeps this core piccolo (core.issue ops this inst piccolo hardware) :=
  by
  have tail : core.instructionQueue.tail ⊆ core.instructionQueue :=
    fun _ => List.mem_of_mem_tail
  have head : inst ∈ core.instructionQueue := by
    rw [queue]
    exact List.mem_cons_self
  unfold issue
  split
  case h_2 isLoad =>
    refine ⟨⟨rfl, rfl⟩, tail, rfl, rfl, fun burst requested => ?_⟩
    obtain rfl := Option.some.inj requested
    exact ⟨inst, head, isLoad, rfl⟩
  case h_4 =>
    split
    · exact ⟨⟨rfl, rfl⟩, fun _ member => member, rfl, rfl, fun _ => by simp⟩
    · exact ⟨⟨rfl, rfl⟩, tail, rfl, rfl, fun _ => by simp⟩
  all_goals exact ⟨⟨rfl, rfl⟩, tail, rfl, rfl, fun _ => by simp⟩

omit [Div F] [NatCast F] in
/-- The wait for the GRU cell keeps the links and starts no gather. -/
theorem tickGruWait_keeps :
    core.SameLinks (core.tickGruWait ops hardware).1 ∧
      (core.tickGruWait ops hardware).1.isWaitingForPiccolo =
        core.isWaitingForPiccolo ∧
      (core.tickGruWait ops hardware).1.instructionQueue =
        core.instructionQueue := by
  unfold tickGruWait
  cases hardware with
  | none => exact ⟨.refl core, rfl, rfl⟩
  | some lent =>
      obtain ⟨sa, feeder⟩ := lent
      cases ready : (GRUCell.tick ops
          ⟨core.gruCell, sa, feeder⟩).cell.isDone with
      | false =>
          simp only [ready, Bool.false_eq_true, if_false, and_self, and_true]
          constructor
          all_goals simp
      | true =>
          simp only [ready, if_true, and_self, and_true]
          constructor
          all_goals simp

theorem tickKeeps_tick :
    TickKeeps this core piccolo
      (core.tick ops this piccolo hardware) := by
  have nothing : TickKeeps this core piccolo
      { core := core, piccolo := piccolo, gruHardware := hardware } :=
    ⟨.refl core, fun _ member => member, rfl, rfl, fun _ => by simp⟩
  unfold tick
  split
  · rcases tickPiccoloWait_cases ops core piccolo with
      ⟨-, waits⟩ | ⟨-, registers, db, resumes⟩
    · rw [waits]
      exact nothing
    · rw [resumes]
      exact ⟨⟨rfl, rfl⟩, fun _ member => member, rfl, rfl, fun _ => by simp⟩
  · split
    · obtain ⟨links, -, queue⟩ := tickGruWait_keeps ops core hardware
      exact ⟨links, fun _ member => queue ▸ member, rfl, rfl, fun _ => by simp⟩
    · split
      · exact nothing
      · split
        · exact nothing
        case h_2 inst rest queue =>
          exact tickKeeps_issue ops this core piccolo hardware queue

omit [Sub F] in
/-- An instruction other than GATHER leaves the controller alone, and whether
the core waits for it. -/
theorem issue_of_notGather
    {inst : SIMDInstruction}
    (notGather : inst.op ≠ .gather) :
    (core.issue ops this inst piccolo hardware).piccolo = piccolo ∧
      (core.issue ops this inst piccolo hardware).core.isWaitingForPiccolo =
        core.isWaitingForPiccolo ∧
      (core.issue ops this inst piccolo hardware).core.instructionQueue ⊆
        core.instructionQueue := by
  have tail : core.instructionQueue.tail ⊆ core.instructionQueue :=
    fun _ => List.mem_of_mem_tail
  unfold issue
  split
  case h_1 op => exact absurd op notGather
  case h_4 =>
    split
    · exact ⟨rfl, rfl, fun _ member => member⟩
    · exact ⟨rfl, rfl, tail⟩
  all_goals exact ⟨rfl, rfl, tail⟩

/-- A core that gathers nothing leaves its controller alone, and goes on to
do so. -/
theorem tick_of_notGathering
    (notGathering : core.isWaitingForPiccolo = false)
    (noGather : ∀ inst ∈ core.instructionQueue, inst.op ≠ .gather) :
    (core.tick ops this piccolo hardware).piccolo = piccolo ∧
      (core.tick ops this piccolo hardware).core.isWaitingForPiccolo = false ∧
      ∀ inst ∈ (core.tick ops this piccolo hardware).core.instructionQueue,
        inst.op ≠ .gather := by
  unfold tick
  rw [notGathering, Bool.and_false, if_neg Bool.false_ne_true]
  split
  · obtain ⟨-, waits, queue⟩ := tickGruWait_keeps ops core hardware
    refine ⟨rfl, waits.trans notGathering, fun inst member => ?_⟩
    exact noGather inst (queue ▸ member)
  · split
    · exact ⟨rfl, notGathering, noGather⟩
    · split
      · exact ⟨rfl, notGathering, noGather⟩
      case h_2 inst rest queue =>
        have head : inst ∈ core.instructionQueue := by
          rw [queue]
          exact List.mem_cons_self
        obtain ⟨same, waits, fewer⟩ := issue_of_notGather ops this core piccolo
          hardware (noGather inst head)
        exact ⟨same, waits.trans notGathering,
          fun other member => noGather other (fewer member)⟩

/-- The turn of a core that leaves a controller alone. -/
theorem LeavesController.tick
    {controller : Nat}
    {core : SIMDCore F}
    (leaves : core.LeavesController controller) :
    (core.tick ops this piccolo hardware).core.LeavesController controller ∧
      (core.piccolo = controller →
        (core.tick ops this piccolo hardware).piccolo = piccolo) := by
  have links := (tickKeeps_tick ops this core piccolo hardware).links
  constructor
  · intro refers
    obtain ⟨notGathering, noGather⟩ := leaves (links.piccolo.symm.trans refers)
    exact (tick_of_notGathering ops this core piccolo hardware notGathering
      noGather).2
  · intro refers
    obtain ⟨notGathering, noGather⟩ := leaves refers
    exact (tick_of_notGathering ops this core piccolo hardware notGathering
      noGather).1

end Tick

theorem cores_installTick
    [Zero F]
    (core : SIMDCore F)
    (ref : Nat)
    (store : Store F)
    (result : TickResult F) :
    (core.installTick ref store result).cores =
      Function.update store.cores ref result.core := by
  unfold installTick
  split <;> split <;> rfl

theorem piccolos_installTick
    [Zero F]
    (core : SIMDCore F)
    (ref : Nat)
    (store : Store F)
    (result : TickResult F) :
    (core.installTick ref store result).piccolos =
      Function.update store.piccolos core.piccolo result.piccolo := by
  unfold installTick
  split <;> split <;> rfl

end SIMDCore

namespace PiccoloGatherController

/-- An issue tick's read is one of its controller. -/
theorem read_tickIssue
    {controller : PiccoloGatherController}
    {this : Nat}
    {burst : MemoryBurst}
    (isRead : (controller.tickIssue this).2 = some burst) :
    burst.onComplete = some (.readComplete this) ∧
      burst.sizeBytes = controller.elemBytes := by
  unfold tickIssue at isRead
  split at isRead
  · obtain rfl := Option.some.inj isRead
    exact ⟨rfl, rfl⟩
  · exact absurd isRead.symm (Option.some_ne_none burst)

end PiccoloGatherController

/-! ## The vertex program -/

namespace TGNVertexProgram

variable {F : Type}

/-- The program does not refer to a controller. -/
def LeavesController
    (controller : Nat)
    (program : TGNVertexProgram F) : Prop :=
  ∀ vault, program.piccolos vault ≠ some controller

/-- A read of a controller the program refers to. -/
def IsRead
    (program : TGNVertexProgram F)
    (store : Store F)
    (burst : MemoryBurst) : Prop :=
  ∃ vault ref, program.piccolos vault = some ref ∧
    burst.onComplete = some (.readComplete ref) ∧
      burst.sizeBytes = (store.piccolos ref).elemBytes

/-- What a part of a tick does to the controllers: those referred to keep
their element size, and all others are left alone. -/
structure UsesControllers
    (program : TGNVertexProgram F)
    (before after : Store F) : Prop where
  cores : after.cores = before.cores
  programs : after.programs = before.programs
  elemBytes : ∀ ref,
    (after.piccolos ref).elemBytes = (before.piccolos ref).elemBytes
  others : ∀ ref, program.LeavesController ref →
    after.piccolos ref = before.piccolos ref

namespace UsesControllers

variable {program : TGNVertexProgram F} {first middle last : Store F}

theorem of_same
    (same : (last.piccolos, last.cores, last.programs) =
      (first.piccolos, first.cores, first.programs)) :
    UsesControllers program first last := by
  obtain ⟨piccolos, rest⟩ := Prod.mk.inj same
  obtain ⟨cores, programs⟩ := Prod.mk.inj rest
  exact ⟨cores, programs, fun ref => by rw [piccolos],
    fun ref _ => congrFun piccolos ref⟩

theorem trans
    (before : UsesControllers program first middle)
    (after : UsesControllers program middle last) :
    UsesControllers program first last where
  cores := after.cores.trans before.cores
  programs := after.programs.trans before.programs
  elemBytes := fun ref => (after.elemBytes ref).trans (before.elemBytes ref)
  others := fun ref leaves =>
    (after.others ref leaves).trans (before.others ref leaves)

/-- A controller referred to has changed, but not its element size. -/
theorem setPiccolo
    (store : Store F)
    {vault : Fin 16}
    {ref : Nat}
    (refers : program.piccolos vault = some ref)
    {controller : PiccoloGatherController}
    (same : controller.elemBytes = (store.piccolos ref).elemBytes) :
    UsesControllers program store (store.setPiccolo ref controller) where
  cores := rfl
  programs := rfl
  elemBytes := by
    intro other
    simp only [Store.setPiccolo]
    by_cases here : other = ref
    · rw [here, Function.update_self]
      exact same
    · rw [Function.update_of_ne here]
  others := by
    intro other leaves
    refine Function.update_of_ne (fun here => ?_) _ _
    exact leaves vault (refers.trans (congrArg some here.symm))

end UsesControllers

/-- The issue ticks of the gather phase. -/
theorem uses_issueVaults
    (program : TGNVertexProgram F)
    (store : Store F)
    (vaults : List (Fin 16)) :
    UsesControllers program store
        (vaults.foldl program.issueVault (store, [], true)).1 ∧
      ∀ burst ∈ (vaults.foldl program.issueVault (store, [], true)).2.1,
        program.IsRead store burst := by
  refine List.foldlRecOn
    (motive := fun state : Store F × List MemoryBurst × Bool =>
      UsesControllers program store state.1 ∧
        ∀ burst ∈ state.2.1, program.IsRead store burst) _ _
    ⟨.of_same rfl, fun _ none => absurd none List.not_mem_nil⟩ ?_
  rintro ⟨reached, reads, allDone⟩ ⟨uses, areReads⟩ vault -
  unfold issueVault
  split
  · exact ⟨uses, areReads⟩
  case h_2 ref refers =>
    refine ⟨uses.trans (.setPiccolo reached refers
      ((reached.piccolos ref).sameBatch_tickIssue ref).elemBytes), ?_⟩
    intro burst isRead
    rcases List.mem_append.mp isRead with earlier | new
    · exact areReads burst earlier
    · obtain ⟨runs, size⟩ := PiccoloGatherController.read_tickIssue
        (Option.mem_toList.mp new)
      exact ⟨vault, ref, refers, runs, size.trans (uses.elemBytes ref)⟩

theorem elemBytes_takeValues
    (count : Nat)
    (controller : PiccoloGatherController) :
    (takeValues count controller).2.elemBytes = controller.elemBytes := by
  induction count generalizing controller with
  | zero => rfl
  | succ count inductionHypothesis =>
      rw [takeValues]
      split
      · rfl
      · exact inductionHypothesis controller.popDb

/-- The end of the gather phase. -/
theorem uses_drainVaults
    [Zero F]
    (ops : FloatOps F)
    (program : TGNVertexProgram F)
    (store : Store F)
    (vaults : List (Fin 16)) :
    UsesControllers program store
      (vaults.foldl (drainVault ops program) store) := by
  refine List.foldlRecOn (motive := UsesControllers program store) _ _
    (.of_same rfl) ?_
  intro reached uses vault _
  unfold drainVault
  split
  case h_1 feeder ref _ refers =>
    exact (uses.trans (.setPiccolo reached refers
      (elemBytes_takeValues 16 _))).trans (.of_same rfl)
  case h_2 => exact uses

/-- What a tick of the program does to the controllers. -/
structure TickUses
    (program : TGNVertexProgram F)
    (store : Store F)
    (ticked : TGNVertexProgram F × Store F × List MemoryBurst) : Prop where
  piccolos : ticked.1.piccolos = program.piccolos
  uses : UsesControllers program store ticked.2.1
  reads : ∀ burst ∈ ticked.2.2, program.IsRead store burst

/-- Outside the gather phase no controller is concerned. -/
theorem TickUses.of_noReads
    {program after : TGNVertexProgram F}
    {store stored : Store F}
    (piccolos : after.piccolos = program.piccolos)
    (same : (stored.piccolos, stored.cores, stored.programs) =
      (store.piccolos, store.cores, store.programs)) :
    TickUses program store (after, stored, []) :=
  ⟨piccolos, .of_same same, fun _ none => absurd none List.not_mem_nil⟩

section Tick

variable [Zero F] (ops : FloatOps F) (program : TGNVertexProgram F)
  (store : Store F)

theorem tickUses_gather :
    TickUses program store (program.tickGenUpdateGather ops store) := by
  let counted : TGNVertexProgram F :=
    { program with gatherCycles := program.gatherCycles + 1 }
  obtain ⟨issues, reads⟩ :=
    uses_issueVaults counted store (List.finRange 16)
  have issued : UsesControllers program store
      ((List.finRange 16).foldl counted.issueVault (store, [], true)).1 :=
    ⟨issues.cores, issues.programs, issues.elemBytes, issues.others⟩
  have drains := uses_drainVaults ops counted
    ((List.finRange 16).foldl counted.issueVault (store, [], true)).1
    (List.finRange 16)
  unfold tickGenUpdateGather
  simp only
  split
  · exact ⟨rfl, issued.trans ⟨drains.cores, drains.programs,
      drains.elemBytes, drains.others⟩, reads⟩
  · exact ⟨rfl, issued, reads⟩

omit program store in
theorem piccolos_gruVaults
    [One F]
    [Add F]
    [Sub F]
    [Mul F]
    (state : TGNVertexProgram F × Store F × Nat) :
    ((List.finRange 16).foldl (gruVault ops) state).1.piccolos =
      state.1.piccolos := by
  apply Sweep.observe_foldl
    (fun state : TGNVertexProgram F × Store F × Nat => state.1.piccolos)
  intro state vault
  unfold gruVault
  simp only
  split
  · split <;> rfl
  · rfl

theorem tickUses_tick
    [One F]
    [Add F]
    [Sub F]
    [Mul F]
    [Div F]
    [NatCast F]
    (saOutputs : Fin 16 → Vec16 F) :
    TickUses program store (program.tick ops store saOutputs) := by
  let observe := fun store : Store F =>
    (store.piccolos, store.cores, store.programs)
  have feeders : IgnoresFeeders observe := fun _ _ _ => rfl
  have arrays : IgnoresArrays observe := fun _ _ _ => rfl
  have psaus : IgnoresPsaus observe := fun _ _ _ => rfl
  have computed : (program.countCycle.tickGenUpdateCompute store
      saOutputs).1.piccolos = program.piccolos := by
    unfold tickGenUpdateCompute
    simp only
    split <;> rfl
  have drained : (program.countCycle.tickPsauDrain store).1.piccolos =
      program.piccolos := by
    unfold tickPsauDrain
    simp only
    split
    · rfl
    · split <;> rfl
  have loaded : program.countCycle.tickLoadHiddenState.piccolos =
      program.piccolos := by
    unfold tickLoadHiddenState
    simp only
    split <;> rfl
  have updated : (program.countCycle.tickGru ops store).1.piccolos =
      program.piccolos := by
    have kept := piccolos_gruVaults ops
      ({ program.countCycle with
          gruCycles := program.countCycle.gruCycles + 1 }, store, 0)
    unfold tickGru
    simp only
    split
    · exact kept
    · exact kept
  unfold tick
  cases program.phase with
  | idle => exact .of_noReads rfl rfl
  | done => exact .of_noReads rfl rfl
  | genUpdateGather =>
      obtain ⟨piccolos, uses, reads⟩ :=
        tickUses_gather ops program.countCycle store
      exact ⟨piccolos, ⟨uses.cores, uses.programs, uses.elemBytes,
        uses.others⟩, reads⟩
  | genUpdateCompute =>
      exact .of_noReads computed (observe_tickGenUpdateCompute observe
        program.countCycle store feeders arrays saOutputs)
  | genUpdatePsauDrain =>
      exact .of_noReads drained (observe_tickPsauDrain observe
        program.countCycle store psaus)
  | applyUpdateLoadH => exact .of_noReads loaded rfl
  | applyUpdateGru =>
      exact .of_noReads updated (observe_tickGru observe ops
        program.countCycle store feeders arrays)
  | writeback => exact .of_noReads rfl rfl

end Tick

end TGNVertexProgram

end PimGraphs
