import PimGraphs.Compute.GatherFrame
import PimGraphs.Compute.Interleaving

/-!
# The work left to a core

Every instruction stands for an amount of work: one unit for itself, three for
each burst it will put on its way, and one more for the wait after a GATHER.
A core without GRU_UPDATE does nothing in a tick, or spends some of its work,
even when what it hands to the router and to its controller is added again.
-/

namespace PimGraphs

/-- The work an instruction stands for. -/
def SIMDInstruction.work (inst : SIMDInstruction) : Nat :=
  match inst.op with
  | .load => 4
  | .gather => 2 + 3 * inst.elementsToGather
  | _ => 1

namespace PiccoloGatherController

/-- Reads of the batch still to be issued. -/
def toIssue (controller : PiccoloGatherController) : Nat :=
  controller.numElems - controller.issued

/-- An issue tick issues one of these reads, or does nothing. -/
theorem tickIssue_cases
    (controller : PiccoloGatherController)
    (this : Nat) :
    (controller.canIssue = false ∧
        controller.tickIssue this = (controller, none)) ∨
      (controller.canIssue = true ∧
        (controller.tickIssue this).1.toIssue + 1 = controller.toIssue ∧
          ∃ burst, (controller.tickIssue this).2 = some burst) := by
  cases issues : controller.canIssue with
  | false =>
      refine Or.inl ⟨rfl, ?_⟩
      rw [tickIssue, issues]
      exact if_neg Bool.false_ne_true
  | true =>
      refine Or.inr ⟨rfl, ?_,
        controller.elementRead this controller.ob.front, ?_⟩
      · have more : controller.issued < controller.numElems := by
          simp only [canIssue, Bool.and_eq_true, decide_eq_true_eq] at issues
          exact issues.1.1.1
        rw [tickIssue, issues, if_pos rfl]
        simp only [toIssue]
        omega
      · rw [tickIssue, issues, if_pos rfl]

theorem toIssue_onReadComplete
    (controller : PiccoloGatherController)
    (value : UInt32) :
    (controller.onReadComplete value).toIssue = controller.toIssue := by
  unfold onReadComplete
  split <;> rfl

/-- A controller that is done stays so. -/
theorem done_onReadComplete
    {controller : PiccoloGatherController}
    (isDone : controller.done = true)
    (value : UInt32) :
    (controller.onReadComplete value).done = true := by
  unfold onReadComplete
  split
  · exact isDone
  · rw [done, decide_eq_true_eq] at isDone ⊢
    exact isDone.trans (Nat.le_succ _)

end PiccoloGatherController

namespace SIMDCore

variable {F : Type}

/-- The work of the instructions left, and of the wait for the controller. -/
def work (core : SIMDCore F) : Nat :=
  (core.instructionQueue.map SIMDInstruction.work).sum +
    core.isWaitingForPiccolo.toNat

/-- Neither in nor in front of a GRU_UPDATE. -/
structure NoGru (core : SIMDCore F) : Prop where
  notWaiting : core.isWaitingForGru = false
  noUpdate : ∀ inst ∈ core.instructionQueue, inst.op ≠ .gruUpdate

/-- The same links, the same instructions left, and the same waits other than
that for a reply. -/
structure SameDuties (before after : SIMDCore F) : Prop where
  links : before.SameLinks after
  queue : after.instructionQueue = before.instructionQueue
  gathering : after.isWaitingForPiccolo = before.isWaitingForPiccolo
  updating : after.isWaitingForGru = before.isWaitingForGru

theorem SameDuties.refl (core : SIMDCore F) : core.SameDuties core :=
  ⟨.refl core, rfl, rfl, rfl⟩

theorem sameDuties_onMemoryReply
    (core : SIMDCore F)
    (burstData : List F) :
    core.SameDuties (core.onMemoryReply burstData) := by
  refine ⟨sameLinks_onMemoryReply core burstData, ?_, ?_, ?_⟩
  all_goals
    unfold onMemoryReply
    split
    · rfl
    · rfl

section Duties

variable {before after : SIMDCore F}

theorem SameDuties.work (same : before.SameDuties after) :
    after.work = before.work := by
  unfold SIMDCore.work
  rw [same.queue, same.gathering]

theorem SameDuties.noGru
    (same : before.SameDuties after)
    (noGru : before.NoGru) :
    after.NoGru where
  notWaiting := same.updating.trans noGru.notWaiting
  noUpdate := by
    rw [same.queue]
    exact noGru.noUpdate

theorem SameDuties.leavesController
    (same : before.SameDuties after)
    {controller : Nat}
    (leaves : before.LeavesController controller) :
    after.LeavesController controller := by
  intro refers
  rw [same.gathering, same.queue]
  exact leaves (same.links.piccolo.symm.trans refers)

end Duties

/-- The core has an instruction to execute, or a finished gather to take. -/
def Acts
    (core : SIMDCore F)
    (piccolo : PiccoloGatherController) : Prop :=
  (core.isStalled = false ∧ core.instructionQueue ≠ []) ∨
    (core.isStalled = true ∧ core.isWaitingForPiccolo = true ∧
      piccolo.done = true)

/-- A tick that has changed nothing. -/
structure Rests
    (core : SIMDCore F)
    (piccolo : PiccoloGatherController)
    (result : TickResult F) : Prop where
  core : result.core = core
  piccolo : result.piccolo = piccolo
  request : result.request = none

/-- A tick that has done more work than it has put on its way. -/
def Spends
    (core : SIMDCore F)
    (piccolo : PiccoloGatherController)
    (result : TickResult F) : Prop :=
  result.core.work + 3 * result.request.toList.length +
      3 * (result.piccolo.toIssue - piccolo.toIssue) <
    core.work

variable [Zero F] [One F] [Add F] [Sub F] [Mul F] [Div F] [NatCast F]
variable (ops : FloatOps F) (this : Nat) {core : SIMDCore F}
variable {piccolo : PiccoloGatherController}
variable (hardware : Option (SystolicArray F × ArrayFeeder F))

omit [Sub F] in
/-- Executing an instruction spends its work. -/
theorem spends_issue
    {inst : SIMDInstruction}
    {rest : List SIMDInstruction}
    (queue : core.instructionQueue = inst :: rest)
    (notGru : inst.op ≠ .gruUpdate) :
    Spends core piccolo (core.issue ops this inst piccolo hardware) := by
  have before : core.work = inst.work +
      (rest.map SIMDInstruction.work).sum +
        core.isWaitingForPiccolo.toNat := by
    rw [work, queue, List.map_cons, List.sum_cons]
  have tail : core.instructionQueue.tail = rest := by rw [queue, List.tail_cons]
  have same : piccolo.toIssue - piccolo.toIssue = 0 := Nat.sub_self _
  unfold Spends
  rw [before]
  unfold issue
  split
  case h_1 op =>
    -- the elements to gather are now the controller's to issue
    simp only [work, popInstruction, tail, SIMDInstruction.work, op,
      PiccoloGatherController.toIssue,
      PiccoloGatherController.pushOffsets,
      PiccoloGatherController.resetForNewBatch, Option.toList_none,
      List.length_nil, SIMDInstruction.elementsToGather, Bool.toNat_true]
    omega
  case h_2 op =>
    simp only [work, popInstruction, tail, SIMDInstruction.work, op, same,
      Option.toList_some, List.length_singleton]
    omega
  case h_3 op =>
    simp only [work, popInstruction, tail, SIMDInstruction.work, op, same,
      Option.toList_none, List.length_nil]
    omega
  case h_4 op => exact absurd op notGru
  case h_5 notGather notLoad _ _ =>
    have one : inst.work = 1 := by
      unfold SIMDInstruction.work
      split
      · exact absurd ‹_› notLoad
      · exact absurd ‹_› notGather
      · rfl
    simp only [work, popInstruction, tail, one, same, Option.toList_none,
      List.length_nil]
    omega

omit [Sub F] in
/-- An instruction other than GRU_UPDATE does not wait for the cell. -/
theorem notWaiting_issue
    {inst : SIMDInstruction}
    (notWaiting : core.isWaitingForGru = false)
    (notGru : inst.op ≠ .gruUpdate) :
    (core.issue ops this inst piccolo hardware).core.isWaitingForGru =
      false := by
  unfold issue
  split
  case h_4 op => exact absurd op notGru
  all_goals exact notWaiting

theorem tick_of_running
    {inst : SIMDInstruction}
    {rest : List SIMDInstruction}
    (running : core.isStalled = false)
    (queue : core.instructionQueue = inst :: rest) :
    core.tick ops this piccolo hardware =
      core.issue ops this inst piccolo hardware := by
  simp [tick, running, queue]

/-- The tick that takes a finished gather. -/
theorem tick_of_gathered
    (stalled : core.isStalled = true)
    (waits : core.isWaitingForPiccolo = true)
    (done : piccolo.done = true) :
    ∃ registers db,
      core.tick ops this piccolo hardware =
        { core := ({ core with registers := registers } : SIMDCore F).resume
          piccolo := { piccolo with db := db }
          gruHardware := hardware } := by
  rcases tickPiccoloWait_cases ops core piccolo with
    ⟨missing, -⟩ | ⟨-, registers, db, resumes⟩
  · exact absurd (missing.symm.trans done) Bool.noConfusion
  · have waiting : (core.isStalled && core.isWaitingForPiccolo) = true := by
      rw [stalled, waits]
      rfl
    refine ⟨registers, db, ?_⟩
    rw [tick, if_pos waiting, resumes]

/-- A core that acts spends work. -/
theorem spends_tick
    (noGru : core.NoGru)
    (acts : core.Acts piccolo) :
    Spends core piccolo (core.tick ops this piccolo hardware) := by
  rcases acts with ⟨running, some⟩ | ⟨stalled, waits, done⟩
  · obtain ⟨inst, rest, queue⟩ := List.exists_cons_of_ne_nil some
    rw [tick_of_running ops this hardware running queue]
    exact spends_issue ops this hardware queue
      (noGru.noUpdate inst (queue ▸ List.mem_cons_self))
  · obtain ⟨registers, db, ticked⟩ :=
      tick_of_gathered ops this hardware stalled waits done
    have same : PiccoloGatherController.toIssue
        { piccolo with db := db } = piccolo.toIssue := rfl
    rw [ticked]
    simp only [Spends, same, work, resume, waits, Bool.toNat_false,
      Bool.toNat_true, Option.toList_none, List.length_nil]
    omega

/-- A core that does not act rests. -/
theorem rests_tick
    (noGru : core.NoGru)
    (notActing : ¬ core.Acts piccolo) :
    Rests core piccolo (core.tick ops this piccolo hardware) := by
  have nothing : Rests core piccolo
      { core := core, piccolo := piccolo, gruHardware := hardware } :=
    ⟨rfl, rfl, rfl⟩
  unfold tick
  split
  case isTrue waiting =>
    obtain ⟨stalled, waits⟩ := Bool.and_eq_true_iff.mp waiting
    rcases tickPiccoloWait_cases ops core piccolo with
      ⟨-, waits⟩ | ⟨done, -⟩
    · rw [waits]
      exact nothing
    · exact absurd (Or.inr ⟨stalled, waits, done⟩) notActing
  case isFalse =>
    rw [noGru.notWaiting, Bool.and_false, if_neg Bool.false_ne_true]
    split
    case isTrue => exact nothing
    case isFalse running =>
      split
      case h_1 => exact nothing
      case h_2 inst rest queue =>
        refine absurd (Or.inl ⟨Bool.not_eq_true _ ▸ running, ?_⟩) notActing
        rw [queue]
        exact List.cons_ne_nil inst rest

/-- Without GRU_UPDATE a core never waits for its cell. -/
theorem noGru_tick (noGru : core.NoGru) :
    (core.tick ops this piccolo hardware).core.NoGru := by
  have keeps := tickKeeps_tick ops this core piccolo hardware
  refine ⟨?_, fun inst member => noGru.noUpdate inst (keeps.queue member)⟩
  by_cases acts : core.Acts piccolo
  · rcases acts with ⟨running, some⟩ | ⟨stalled, waits, done⟩
    · obtain ⟨inst, rest, queue⟩ := List.exists_cons_of_ne_nil some
      rw [tick_of_running ops this hardware running queue]
      exact notWaiting_issue ops this hardware noGru.notWaiting
        (noGru.noUpdate inst (queue ▸ List.mem_cons_self))
    · obtain ⟨registers, db, ticked⟩ :=
        tick_of_gathered ops this hardware stalled waits done
      rw [ticked]
      exact noGru.notWaiting
  · rw [(rests_tick ops this hardware noGru acts).core]
    exact noGru.notWaiting

/-- A core that begins or goes on waiting for its controller says so; any
other leaves the controller as done as it was. -/
theorem waits_or_done_tick
    (noGru : core.NoGru) :
    (core.tick ops this piccolo hardware).core.isWaitingForPiccolo = true ∨
      (core.isWaitingForPiccolo = true → piccolo.done = true) ∧
        (core.tick ops this piccolo hardware).piccolo.done =
          piccolo.done := by
  by_cases acts : core.Acts piccolo
  · rcases acts with ⟨running, some⟩ | ⟨stalled, waits, done⟩
    · obtain ⟨inst, rest, queue⟩ := List.exists_cons_of_ne_nil some
      rw [tick_of_running ops this hardware running queue]
      by_cases isGather : inst.op = .gather
      · refine Or.inl ?_
        simp only [issue, isGather]
      · obtain ⟨same, waits, -⟩ := issue_of_notGather ops this core piccolo
          hardware isGather
        rw [same, waits]
        cases core.isWaitingForPiccolo with
        | true => exact Or.inl rfl
        | false => exact Or.inr ⟨Bool.noConfusion, rfl⟩
    · obtain ⟨registers, db, ticked⟩ :=
        tick_of_gathered ops this hardware stalled waits done
      refine Or.inr ⟨fun _ => done, ?_⟩
      rw [ticked]
      rfl
  · obtain ⟨sameCore, samePiccolo, -⟩ :=
      rests_tick ops this hardware noGru acts
    rw [sameCore, samePiccolo]
    cases core.isWaitingForPiccolo with
    | true => exact Or.inl rfl
    | false => exact Or.inr ⟨Bool.noConfusion, rfl⟩

end SIMDCore

/-- When all reads that were issued have completed and some are missing, the
controller can issue the next one. -/
theorem CoreSystem.Gathering.canIssue_of_missing
    {F : Type}
    [Zero F] [One F] [Add F] [Sub F] [Mul F] [Div F] [NatCast F]
    {ops : FloatOps F}
    {wiring : Wiring}
    {numRegisters : UInt32}
    {final : Outcome F}
    {system : CoreSystem F}
    {dest : Nat}
    {initial : PiccoloGatherController}
    {offsets : List UInt32}
    {earlier : List MemoryBurst}
    {batch : GatherBatch}
    (gathering : system.Gathering ops wiring numRegisters final dest initial
      offsets earlier batch)
    (allRead : batch.values.length = batch.reads.length)
    (missing : system.piccolo.done = false)
    (issues : 0 < system.piccolo.maxOutstanding) :
    system.piccolo.canIssue = true := by
  have sound := gathering.sound
  have elems := sound.same.numElems.trans gathering.numElems
  have dbCap : batch.controller.db.cap = 256 := by
    rw [gathering.controller]
    exact gathering.wired.dbCap
  rw [← gathering.controller] at missing issues ⊢
  have issued := sound.length_reads
  have completed := sound.completed
  have balance := sound.balance
  have few := gathering.few
  have more : batch.controller.completed < offsets.length := by
    rw [PiccoloGatherController.done, decide_eq_false_iff_not, elems]
      at missing
    omega
  have waiting := congrArg List.length sound.waiting
  rw [RingBuffer.length_contents, List.length_drop] at waiting
  have buffered := congrArg List.length sound.values
  rw [gathering.popped, List.nil_append, RingBuffer.length_contents]
    at buffered
  simp only [PiccoloGatherController.canIssue, Bool.and_eq_true,
    decide_eq_true_eq]
  omega

end PimGraphs
