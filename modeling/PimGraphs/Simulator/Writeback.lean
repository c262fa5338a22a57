import PimGraphs.Simulator.Delivery

/-!
# Write-backs of finished vertices

The write-back of a vertex is issued in every cycle in which its result is
ready, and the result stays ready until the next vertex is started.  So a call
writes a vertex back once for every cycle it executes from the one in which
the program is done.
-/

namespace PimGraphs

/-- Whether an event hands a write-back to an address to the attached
router. -/
def Event.writesBack (attached : Option Nat) (addr : UInt64) : Event → Bool
  | .routed router .vertexWriteback burst =>
      decide (attached = some router) && decide (burst.addr = addr)
  | _ => false

namespace Driver

variable {M : Type} (attached : Option Nat) (addr : UInt64)

/-- Number of write-backs to an address so far. -/
def writebacks (driver : Driver M) : Nat :=
  driver.history.countP (Event.writesBack attached addr)

@[simp] theorem writebacks_enqueue
    (driver : Driver M)
    (via : Option Nat)
    (burst : MemoryBurst) :
    (driver.enqueue via burst).writebacks attached addr =
      driver.writebacks attached addr := by
  simp [writebacks, enqueue, Event.writesBack]

@[simp] theorem writebacks_enqueueAll
    (driver : Driver M)
    (via : Option Nat)
    (bursts : List MemoryBurst) :
    (driver.enqueueAll via bursts).writebacks attached addr =
      driver.writebacks attached addr := by
  unfold enqueueAll
  induction bursts generalizing driver with
  | nil => rfl
  | cons burst rest inductionHypothesis =>
      rw [List.foldl_cons, inductionHypothesis, writebacks_enqueue]

/-- Only write-backs count. -/
theorem writebacks_recordRouted
    (driver : Driver M)
    (router : Nat)
    {producer : Producer}
    (other : producer ≠ .vertexWriteback)
    (bursts : List MemoryBurst) :
    (driver.recordRouted router producer bursts).writebacks attached addr =
      driver.writebacks attached addr := by
  have none : (bursts.map (Event.routed router producer)).countP
      (Event.writesBack attached addr) = 0 := by
    rw [List.countP_eq_zero]
    intro event member
    obtain ⟨burst, -, rfl⟩ := List.mem_map.mp member
    cases producer <;> simp_all [Event.writesBack]
  rw [writebacks, recordRouted, List.countP_append, none, add_zero]
  rfl

@[simp] theorem writebacks_acceptRead
    (driver : Driver M)
    (pcId : PcId)
    (burst : MemoryBurst)
    (memory : M) :
    (driver.acceptRead pcId burst memory).writebacks attached addr =
      driver.writebacks attached addr := by
  simp [writebacks, acceptRead, Event.writesBack]

@[simp] theorem writebacks_complete
    (driver : Driver M)
    (slot : Nat) :
    (driver.complete slot).1.writebacks attached addr =
      driver.writebacks attached addr := by
  cases found : driver.inflight.lookup slot with
  | none => simp [complete_eq, found]
  | some request =>
      rw [writebacks, complete_history found]
      cases due : request.burst.onComplete <;>
        simp [completionEvents, due, Event.writesBack, writebacks]

end Driver

namespace RunState

variable {F M : Type}

/-- A step of other components: it leaves alone what decides about the
write-backs of the attached program. -/
structure LeavesVertex
    (config : RunConfig F M)
    (ref : Nat)
    (before after : RunState F M) : Prop where
  status : (after.store.programs ref).status =
    (before.store.programs ref).status
  loadHIssued : after.loadHIssued = before.loadHIssued
  processed : after.verticesProcessed = before.verticesProcessed
  writebacks : ∀ addr,
    after.driver.writebacks config.attached.router addr =
      before.driver.writebacks config.attached.router addr

namespace LeavesVertex

variable {config : RunConfig F M} {ref : Nat}

theorem refl (state : RunState F M) : LeavesVertex config ref state state :=
  ⟨rfl, rfl, rfl, fun _ => rfl⟩

theorem trans
    {first middle last : RunState F M}
    (before : LeavesVertex config ref first middle)
    (after : LeavesVertex config ref middle last) :
    LeavesVertex config ref first last where
  status := after.status.trans before.status
  loadHIssued := after.loadHIssued.trans before.loadHIssued
  processed := after.processed.trans before.processed
  writebacks := fun addr =>
    (after.writebacks addr).trans (before.writebacks addr)

/-- Handing other bursts to a router. -/
theorem route
    (state : RunState F M)
    (router : Nat)
    {producer : Producer}
    (other : producer ≠ .vertexWriteback)
    (bursts : List MemoryBurst) :
    LeavesVertex config ref state (state.route router producer bursts) :=
  ⟨rfl, rfl, rfl, fun _ =>
    Driver.writebacks_recordRouted _ _ _ _ other _⟩

theorem issuePiccolo (state : RunState F M) :
    LeavesVertex config ref state (state.issuePiccolo config) := by
  unfold RunState.issuePiccolo
  cases config.attached.piccolo with
  | none => exact refl _
  | some piccolo =>
      simp only
      split
      · exact refl _
      · exact ⟨rfl, rfl, rfl, fun _ =>
        Driver.writebacks_enqueueAll _ _ _ _ _⟩

theorem tickRouter (state : RunState F M) :
    LeavesVertex config ref state (state.tickRouter config) := by
  unfold RunState.tickRouter
  cases config.attached.router with
  | none => exact refl _
  | some router =>
      exact ⟨rfl, rfl, rfl, fun _ =>
        Driver.writebacks_enqueueAll _ _ _ _ _⟩

theorem tickPsau
    [Add F]
    (state : RunState F M)
    (inputs : TreeInputs F) :
    LeavesVertex config ref state (state.tickPsau config inputs) := by
  unfold RunState.tickPsau
  cases config.attached.psau with
  | none => exact refl _
  | some psau =>
      have stored (unit : PartialSumAccumulationUnit F) :
          LeavesVertex config ref state
            { state with store := state.store.setPsau psau unit } :=
        ⟨rfl, rfl, rfl, fun _ => rfl⟩
      simp only
      split
      · exact (stored _).trans (route _ _ (by decide) _)
      · exact stored _

theorem requestHidden
    (config : RunConfig F M)
    (state : RunState F M)
    (program : Nat) :
    (state.requestHidden config program).store.programs =
        state.store.programs ∧
      (state.requestHidden config program).verticesProcessed =
        state.verticesProcessed ∧
      ∀ addr,
        (state.requestHidden config program).driver.writebacks
            config.attached.router addr =
          state.driver.writebacks config.attached.router addr := by
  unfold RunState.requestHidden
  cases config.attached.router with
  | none => exact ⟨rfl, rfl, fun _ => rfl⟩
  | some router =>
      simp only
      split
      · exact ⟨rfl, rfl, fun _ =>
          Driver.writebacks_recordRouted _ _ _ _ (by decide) _⟩
      · exact ⟨rfl, rfl, fun _ => rfl⟩

theorem runAdmission (state : RunState F M) :
    LeavesVertex config ref state (state.runAdmission config) where
  status := rfl
  loadHIssued := rfl
  processed := rfl
  writebacks := fun addr => by
    have keeps : WaveLoop.KeptByAdmission config.admission
        fun driver : Driver M =>
          driver.writebacks config.attached.router addr =
            state.driver.writebacks config.attached.router addr :=
      fun _ _ _ _ _ kept _ _ _ =>
        (Driver.writebacks_acceptRead _ _ _ _ _ _).trans kept
    exact WaveLoop.kept_admissionLoop keeps rfl

theorem completeSlot
    [Zero F]
    [One F]
    (state : RunState F M)
    (slot : Nat) :
    LeavesVertex config ref state (state.completeSlot slot) where
  status := by
    rw [RunState.completeSlot_eq]
    simp only
    split
    · rfl
    · rename_i callback _
      cases callback with
      | loadHidden program =>
          by_cases same : ref = program
          · subst same
            simp [runCallback, Store.setProgram, TGNVertexProgram.status,
              TGNVertexProgram.deliverHidden]
          · simp [runCallback, Store.setProgram, same]
      | readComplete piccolo => rfl
      | loadReply core => rfl
      | host tag => rfl
  loadHIssued := by rw [RunState.completeSlot_eq]
  processed := by rw [RunState.completeSlot_eq]
  writebacks := by
    intro addr
    rw [completeSlot_driver]
    exact Driver.writebacks_complete _ _ _ _

theorem tickMemory
    [Zero F]
    [One F]
    (state : RunState F M) :
    LeavesVertex config ref state (state.tickMemory config) := by
  unfold RunState.tickMemory
  refine List.foldlRecOn (motive := LeavesVertex config ref state) _ _ ?_ ?_
  · exact ⟨rfl, rfl, rfl, fun _ => rfl⟩
  · intro next leaves slot _
    exact leaves.trans (completeSlot next slot)

variable [Zero F] [One F] [Add F] [Sub F] [Mul F] [Div F] [NatCast F]

theorem tickCore
    (state : RunState F M)
    (core : Nat) :
    LeavesVertex config ref state (state.tickCore config core) where
  status := by
    unfold RunState.tickCore RunState.route
    simp only [Store.setRouter, SIMDCore.programs_installTick]
  loadHIssued := rfl
  processed := rfl
  writebacks := fun _ => Driver.writebacks_recordRouted _ _ _ _ (by simp) _

theorem tickVault
    (progress : RunState F M × TreeInputs F)
    (vault : Fin 16) :
    LeavesVertex config ref progress.1
      (RunState.tickVault config progress vault).1 := by
  unfold RunState.tickVault
  cases config.attached.vpus vault with
  | none => exact refl _
  | some core =>
      have ticked : LeavesVertex config ref progress.1
          (progress.1.tickCore config core) := tickCore _ _
      simp only
      split
      · exact ticked.trans ⟨rfl, rfl, rfl, fun _ => rfl⟩
      · exact ticked

theorem tickVaults (state : RunState F M) :
    LeavesVertex config ref state (state.tickVaults config).1 := by
  unfold RunState.tickVaults
  refine List.foldlRecOn
    (motive := fun progress : RunState F M × TreeInputs F =>
      LeavesVertex config ref state progress.1) _ _ (refl _) ?_
  intro progress leaves vault _
  exact leaves.trans (tickVault progress vault)

theorem tickDatapath (state : RunState F M) :
    LeavesVertex config ref state (state.tickDatapath config).1 := by
  have issued : LeavesVertex config ref state (state.issuePiccolo config) :=
    issuePiccolo state
  have delivered := issued.trans (tickRouter _)
  have vaults := delivered.trans (tickVaults _)
  exact vaults.trans (tickPsau _ _)

end LeavesVertex

section Programs

variable (config : RunConfig F M) (state : RunState F M)

theorem programs_issuePiccolo :
    (state.issuePiccolo config).store.programs = state.store.programs := by
  unfold issuePiccolo
  cases config.attached.piccolo with
  | none => rfl
  | some ref =>
      simp only
      split <;> rfl

theorem programs_tickRouter :
    (state.tickRouter config).store.programs = state.store.programs := by
  unfold tickRouter
  cases config.attached.router <;> rfl

theorem programs_tickPsau
    [Add F]
    (inputs : TreeInputs F) :
    (state.tickPsau config inputs).store.programs = state.store.programs := by
  unfold tickPsau
  cases config.attached.psau with
  | none => rfl
  | some ref =>
      simp only
      split <;> rfl

variable [Zero F] [One F] [Add F] [Sub F] [Mul F] [Div F] [NatCast F]

theorem programs_tickVault
    (progress : RunState F M × TreeInputs F)
    (vault : Fin 16) :
    (tickVault config progress vault).1.store.programs =
      progress.1.store.programs := by
  unfold tickVault
  cases config.attached.vpus vault with
  | none => rfl
  | some core =>
      have ticked : (progress.1.tickCore config core).store.programs =
          progress.1.store.programs := by
        simp only [tickCore, route, Store.setRouter,
          SIMDCore.programs_installTick]
      simp only
      split
      · exact ticked
      · exact ticked

/-- Cores, arrays and the accumulation unit never touch a vertex program. -/
theorem programs_tickDatapath :
    (state.tickDatapath config).1.store.programs = state.store.programs := by
  have vaults (start : RunState F M) :
      (start.tickVaults config).1.store.programs = start.store.programs := by
    apply Sweep.observe_foldl
      (fun progress : RunState F M × TreeInputs F =>
        progress.1.store.programs)
    intro progress vault
    apply programs_tickVault
  simp only [tickDatapath]
  rw [programs_tickPsau, vaults, programs_tickRouter, programs_issuePiccolo]

end Programs

section Writeback

variable (config : RunConfig F M) (state : RunState F M) (ref : Nat)

theorem programs_writebackVertex :
    (state.writebackVertex config ref).store.programs =
      state.store.programs := by
  unfold writebackVertex
  simp only
  split
  · rfl
  · split <;> rfl

/-- Whether this cycle writes the vertex back. -/
def issuesWriteback : Bool :=
  config.attached.router.isSome && (state.store.programs ref).writebackReady

theorem verticesProcessed_writebackVertex :
    (state.writebackVertex config ref).verticesProcessed =
      state.verticesProcessed +
        (state.issuesWriteback config ref).toNat := by
  unfold writebackVertex issuesWriteback
  cases config.attached.router with
  | none => rfl
  | some router =>
      cases ready : (state.store.programs ref).writebackReady <;> simp [ready]

theorem writebacks_writebackVertex :
    (state.writebackVertex config ref).driver.writebacks
        config.attached.router (state.store.programs ref).cfg.outputAddr =
      state.driver.writebacks config.attached.router
          (state.store.programs ref).cfg.outputAddr +
        (state.issuesWriteback config ref).toNat := by
  unfold writebackVertex issuesWriteback
  cases config.attached.router with
  | none => rfl
  | some router =>
      cases ready : (state.store.programs ref).writebackReady <;>
        simp [ready, route, Driver.recordRouted, Driver.writebacks,
          Event.writesBack, vertexWriteback]

@[simp] theorem recordStats_store :
    (state.recordStats ref).store = state.store := by
  unfold recordStats
  split <;> rfl

@[simp] theorem recordStats_driver :
    (state.recordStats ref).driver = state.driver := by
  unfold recordStats
  split <;> rfl

@[simp] theorem recordStats_loadHIssued :
    (state.recordStats ref).loadHIssued = state.loadHIssued := by
  unfold recordStats
  split <;> rfl

@[simp] theorem recordStats_verticesProcessed :
    (state.recordStats ref).verticesProcessed = state.verticesProcessed := by
  unfold recordStats
  split <;> rfl

variable [Zero F] [One F] [Add F] [Sub F] [Mul F] [Div F] [NatCast F]

/-- The state in which the attached program is ticked. -/
def tickedProgram : RunState F M :=
  (state.tickDatapath config).1.advanceProgram config ref
    (state.tickDatapath config).2

theorem tickComponents_eq
    (attached : config.attached.vertexProgram = some ref) :
    state.tickComponents config =
      (((state.tickedProgram config ref).requestHidden config
        ref).writebackVertex config ref).recordStats ref := by
  simp only [tickComponents, tickVertexProgram, attached]
  rfl

/-- After the vertex program, a cycle leaves it alone. -/
theorem cycle_leavesVertex :
    LeavesVertex config ref (state.tickComponents config)
      (state.cycle config) := by
  have leaves : LeavesVertex config ref (state.tickComponents config)
      (((state.tickComponents config).runAdmission config).tickMemory
        config) :=
    (LeavesVertex.runAdmission _).trans (.tickMemory _)
  exact ⟨leaves.status, leaves.loadHIssued, leaves.processed,
    leaves.writebacks⟩

/-- The ticked program. -/
theorem program_tickedProgram :
    (state.tickedProgram config ref).store.programs ref =
      (((state.tickDatapath config).1.store.programs ref).tick config.ops
        (state.tickDatapath config).1.store
        (state.tickDatapath config).2.vectors).1 :=
  Function.update_self ..

/-- One cycle ticks the attached program once, and writes its vertex back
whenever the result is ready after the tick. -/
theorem cycle_vertex (attached : config.attached.vertexProgram = some ref) :
    ∃ (program : TGNVertexProgram F) (store : Store F)
      (saOutputs : Fin 16 → Vec16 F),
      program.status = (state.store.programs ref).status ∧
      ((state.cycle config).store.programs ref).status =
        (program.tick config.ops store saOutputs).1.status ∧
      (state.cycle config).verticesProcessed = state.verticesProcessed +
        ((state.cycle config).issuesWriteback config ref).toNat ∧
      (state.cycle config).driver.writebacks config.attached.router
          ((state.cycle config).store.programs ref).cfg.outputAddr =
        state.driver.writebacks config.attached.router
            ((state.cycle config).store.programs ref).cfg.outputAddr +
          ((state.cycle config).issuesWriteback config ref).toNat := by
  have before : LeavesVertex config ref state (state.tickDatapath config).1 :=
    .tickDatapath state
  let advanced := state.tickedProgram config ref
  let requested := advanced.requestHidden config ref
  let written := requested.writebackVertex config ref
  have after : LeavesVertex config ref (written.recordStats ref)
      (state.cycle config) := by
    have leaves := cycle_leavesVertex config state ref
    rw [tickComponents_eq config state ref attached] at leaves
    exact leaves
  obtain ⟨requestedPrograms, requestedProcessed, requestedWritebacks⟩ :=
    LeavesVertex.requestHidden config advanced ref
  have writtenPrograms : written.store.programs = requested.store.programs :=
    programs_writebackVertex config requested ref
  have ticked := program_tickedProgram config state ref
  have advancedWritebacks (addr : UInt64) :
      advanced.driver.writebacks config.attached.router addr =
        state.driver.writebacks config.attached.router addr :=
    (Driver.writebacks_enqueueAll _ _ _ _ _).trans (before.writebacks addr)
  have finalStatus : ((state.cycle config).store.programs ref).status =
      (requested.store.programs ref).status := by
    rw [after.status, recordStats_store, writtenPrograms]
  have finalAddr : ((state.cycle config).store.programs ref).cfg.outputAddr =
      (requested.store.programs ref).cfg.outputAddr :=
    congrArg (fun status : TGNVertexProgram.Status => status.cfg.outputAddr)
      finalStatus
  have finalIssues : (state.cycle config).issuesWriteback config ref =
      requested.issuesWriteback config ref :=
    congrArg (fun status : TGNVertexProgram.Status =>
      config.attached.router.isSome && status.writebackReady) finalStatus
  refine ⟨(state.tickDatapath config).1.store.programs ref,
    (state.tickDatapath config).1.store,
    (state.tickDatapath config).2.vectors, before.status, ?_, ?_, ?_⟩
  · rw [finalStatus, requestedPrograms, ticked]
  · rw [after.processed, recordStats_verticesProcessed, finalIssues,
      verticesProcessed_writebackVertex, requestedProcessed]
    exact congrArg (· + _) before.processed
  · rw [after.writebacks, recordStats_driver, finalIssues, finalAddr,
      writebacks_writebackVertex, requestedWritebacks]
    exact congrArg (· + _) (advancedWritebacks _)

end Writeback

section VertexRun

variable {config : RunConfig F M} {ref : Nat} {addr : UInt64}
variable {state : RunState F M}

/-- A vertex under way: nothing has been written back yet. -/
structure UnderWay
    (config : RunConfig F M)
    (ref : Nat)
    (addr : UInt64)
    (state : RunState F M) : Prop where
  running : (state.store.programs ref).status.Running
  outputAddr : (state.store.programs ref).cfg.outputAddr = addr
  processed : state.verticesProcessed = 0
  writebacks : state.driver.writebacks config.attached.router addr = 0

/-- A vertex that is done, whose result stays ready. -/
structure Through (ref : Nat) (addr : UInt64) (state : RunState F M) :
    Prop where
  finished : (state.store.programs ref).status.Finished
  outputAddr : (state.store.programs ref).cfg.outputAddr = addr

variable [Zero F] [One F] [Add F] [Sub F] [Mul F] [Div F] [NatCast F]

/-- A vertex under way stays so for a cycle, or the cycle gets it through and
writes it back once. -/
theorem UnderWay.cycle
    (attached : config.attached.vertexProgram = some ref)
    (underWay : UnderWay config ref addr state) :
    UnderWay config ref addr (state.cycle config) ∨
      (Through ref addr (state.cycle config) ∧
        (state.cycle config).verticesProcessed =
          config.attached.router.isSome.toNat ∧
        (state.cycle config).driver.writebacks config.attached.router addr =
          config.attached.router.isSome.toNat) := by
  obtain ⟨program, store, saOutputs, same, status, processed, writebacks⟩ :=
    cycle_vertex config state ref attached
  have running := underWay.running
  rw [← same] at running
  have sameAddr : program.cfg.outputAddr = addr :=
    (congrArg (fun status : TGNVertexProgram.Status => status.cfg.outputAddr)
      same).trans underWay.outputAddr
  rw [underWay.processed, Nat.zero_add] at processed
  by_cases last : program.phase = .writeback
  · right
    rw [TGNVertexProgram.status_tick_of_writeback _ _ _ _ last] at status
    have finished : ((state.cycle config).store.programs ref).status.Finished :=
      ⟨congrArg TGNVertexProgram.Status.phase status,
        congrArg TGNVertexProgram.Status.writebackReady status⟩
    have outputAddr :
        ((state.cycle config).store.programs ref).cfg.outputAddr = addr :=
      (congrArg (fun status : TGNVertexProgram.Status =>
        status.cfg.outputAddr) status).trans sameAddr
    have issues : (state.cycle config).issuesWriteback config ref =
        config.attached.router.isSome := by
      rw [issuesWriteback, show ((state.cycle config).store.programs
        ref).writebackReady = true from finished.2, Bool.and_true]
    rw [outputAddr, underWay.writebacks, Nat.zero_add] at writebacks
    rw [issues] at processed writebacks
    exact ⟨⟨finished, outputAddr⟩, processed, writebacks⟩
  · left
    have proceeds := TGNVertexProgram.proceeds_tick config.ops program store
      saOutputs running last
    rw [← status] at proceeds
    have notReady : ((state.cycle config).store.programs ref).writebackReady =
        false :=
      proceeds.ready.trans running.2.2
    have outputAddr :
        ((state.cycle config).store.programs ref).cfg.outputAddr = addr :=
      (congrArg VertexProgramConfig.outputAddr proceeds.cfg).trans sameAddr
    have issues : (state.cycle config).issuesWriteback config ref = false := by
      rw [issuesWriteback, notReady, Bool.and_false]
    rw [outputAddr, underWay.writebacks, Nat.zero_add] at writebacks
    rw [issues] at processed writebacks
    exact ⟨⟨proceeds.notIdle, proceeds.notDone, notReady⟩, outputAddr,
      processed, writebacks⟩

/-- Every further cycle writes the vertex back again. -/
theorem Through.cycle
    (config : RunConfig F M)
    (attached : config.attached.vertexProgram = some ref)
    (through : Through ref addr state) :
    Through ref addr (state.cycle config) ∧
      (state.cycle config).verticesProcessed = state.verticesProcessed +
        config.attached.router.isSome.toNat ∧
      (state.cycle config).driver.writebacks config.attached.router addr =
        state.driver.writebacks config.attached.router addr +
          config.attached.router.isSome.toNat := by
  obtain ⟨program, store, saOutputs, same, status, processed, writebacks⟩ :=
    cycle_vertex config state ref attached
  have done : program.phase = .done :=
    (congrArg TGNVertexProgram.Status.phase same).trans through.finished.1
  rw [TGNVertexProgram.tick_of_done _ _ _ _ done, same] at status
  have finished : ((state.cycle config).store.programs ref).status.Finished :=
    status ▸ through.finished
  have outputAddr :
      ((state.cycle config).store.programs ref).cfg.outputAddr = addr :=
    (congrArg (fun status : TGNVertexProgram.Status => status.cfg.outputAddr)
      status).trans through.outputAddr
  have issues : (state.cycle config).issuesWriteback config ref =
      config.attached.router.isSome := by
    rw [issuesWriteback, show ((state.cycle config).store.programs
      ref).writebackReady = true from finished.2, Bool.and_true]
  rw [outputAddr] at writebacks
  rw [issues] at processed writebacks
  exact ⟨⟨finished, outputAddr⟩, processed, writebacks⟩

end VertexRun

end RunState

namespace RamulatorHbmSimulator

variable {F M : Type} [Zero F] [One F] [Add F] [Sub F] [Mul F] [Div F]
variable [NatCast F]

/-- Every boundary of a call that starts with a vertex under way. -/
theorem vertex_runState
    (simulator : RamulatorHbmSimulator F M)
    {ref : Nat}
    (attached : simulator.attached.vertexProgram = some ref)
    (running : (simulator.store.programs ref).status.Running)
    (cycles : Nat) :
    RunState.UnderWay simulator.runConfig ref
        (simulator.store.programs ref).cfg.outputAddr
        (simulator.runState cycles) ∨
      RunState.Through ref (simulator.store.programs ref).cfg.outputAddr
        (simulator.runState cycles) := by
  induction cycles with
  | zero => exact Or.inl ⟨running, rfl, rfl, rfl⟩
  | succ cycles inductionHypothesis =>
      rw [runState_succ]
      split
      · rcases inductionHypothesis with underWay | through
        · exact (underWay.cycle attached).imp_right And.left
        · exact Or.inr (through.cycle simulator.runConfig attached).1
      · exact inductionHypothesis

theorem through_of_done
    {simulator : RamulatorHbmSimulator F M}
    {ref : Nat}
    (attached : simulator.attached.vertexProgram = some ref)
    (running : (simulator.store.programs ref).status.Running)
    {cycles : Nat}
    (done : ((simulator.runState cycles).store.programs ref).isDone = true) :
    RunState.Through ref (simulator.store.programs ref).cfg.outputAddr
      (simulator.runState cycles) := by
  rcases vertex_runState simulator attached running cycles with
    underWay | through
  · exact absurd (of_decide_eq_true done) underWay.running.2.1
  · exact through

/-- The first boundary at which the program is done, where one write-back has
been issued if there is a router. -/
theorem exists_first_done
    {simulator : RamulatorHbmSimulator F M}
    {ref : Nat}
    (attached : simulator.attached.vertexProgram = some ref)
    (running : (simulator.store.programs ref).status.Running)
    (cycles : Nat)
    (done : ((simulator.runState cycles).store.programs ref).isDone = true) :
    ∃ first ≤ cycles,
      ((simulator.runState first).store.programs ref).isDone = true ∧
      (simulator.runState first).verticesProcessed =
        simulator.attached.router.isSome.toNat ∧
      (simulator.runState first).driver.writebacks simulator.attached.router
          (simulator.store.programs ref).cfg.outputAddr =
        simulator.attached.router.isSome.toNat := by
  induction cycles with
  | zero => exact absurd (of_decide_eq_true done) running.2.1
  | succ cycles inductionHypothesis =>
      rcases vertex_runState simulator attached running cycles with
        underWay | through
      · have next := runState_succ simulator cycles
        split at next
        · rw [next] at done
          rcases underWay.cycle attached with still | ⟨_, counts⟩
          · exact absurd (of_decide_eq_true done) still.running.2.1
          · refine ⟨cycles + 1, le_rfl, ?_⟩
            rw [next]
            exact ⟨done, counts⟩
        · rw [next] at done
          exact absurd (of_decide_eq_true done) underWay.running.2.1
      · obtain ⟨first, bound, counts⟩ :=
          inductionHypothesis (decide_eq_true through.finished.1)
        exact ⟨first, Nat.le_succ_of_le bound, counts⟩

/-- A vertex done during a call is written back once, and counted once, exactly
when a router is attached and the call executes no cycle after the one in
which the program is done. -/
theorem run_writes_back_once_iff
    (simulator : RamulatorHbmSimulator F M)
    (ref : Nat)
    (attached : simulator.attached.vertexProgram = some ref)
    (running : (simulator.store.programs ref).status.Running)
    (maxMemoryCycles : Nat) :
    (∀ cycles ≤ maxMemoryCycles,
      ((simulator.runState cycles).store.programs ref).isDone = true →
        (simulator.runState cycles).driver.writebacks
            simulator.attached.router
            (simulator.store.programs ref).cfg.outputAddr = 1 ∧
          (simulator.runState cycles).verticesProcessed = 1) ↔
      ∀ cycles ≤ maxMemoryCycles,
        ((simulator.runState cycles).store.programs ref).isDone = true →
          simulator.attached.router.isSome = true ∧
            (cycles < maxMemoryCycles →
              (simulator.runState cycles).hasWork simulator.runConfig =
                false) := by
  constructor
  · intro once cycles bound done
    have router : simulator.attached.router.isSome = true := by
      obtain ⟨first, firstBound, firstDone, processed, -⟩ :=
        exists_first_done attached running cycles done
      have counted := (once first (firstBound.trans bound) firstDone).2
      rw [counted] at processed
      exact Bool.toNat_eq_one.mp processed.symm
    refine ⟨router, fun more => ?_⟩
    by_contra working
    rw [Bool.not_eq_false] at working
    obtain ⟨through, processed, -⟩ :=
      (through_of_done attached running done).cycle
        simulator.runConfig attached
    have next := runState_succ simulator cycles
    rw [if_pos working] at next
    rw [← next] at through processed
    have now := (once cycles bound done).2
    have again := (once (cycles + 1) more
      (decide_eq_true through.finished.1)).2
    rw [again, now, show simulator.runConfig.attached.router.isSome = true
      from router] at processed
    exact absurd processed (by decide)
  · intro stops cycles bound done
    obtain ⟨first, firstBound, firstDone, processed, writebacks⟩ :=
      exists_first_done attached running cycles done
    obtain ⟨router, stopped⟩ := stops first (firstBound.trans bound) firstDone
    have same : simulator.runState cycles = simulator.runState first := by
      rcases firstBound.eq_or_lt with equal | later
      · rw [equal]
      · exact runState_of_not_hasWork (stopped (later.trans_le bound))
          firstBound
    rw [same, writebacks, processed, router]
    exact ⟨rfl, rfl⟩

/-- Alone, the vertex of a program is written back once. -/
theorem singleVertex_writes_back_once :
    (∀ cycles ≤ 40,
      (((singleVertex 2).runState cycles).store.programs 0).isDone = true →
        ((singleVertex 2).runState cycles).driver.writebacks
            (singleVertex 2).attached.router
            ((singleVertex 2).store.programs 0).cfg.outputAddr = 1 ∧
          ((singleVertex 2).runState cycles).verticesProcessed = 1) ↔
      ∀ cycles ≤ 40,
        (((singleVertex 2).runState cycles).store.programs 0).isDone = true →
          (singleVertex 2).attached.router.isSome = true ∧
            (cycles < 40 →
              ((singleVertex 2).runState cycles).hasWork
                (singleVertex 2).runConfig = false) :=
  run_writes_back_once_iff (singleVertex 2) 0 rfl
    (TGNVertexProgram.running_startVertex _ Store.initial _) 40

/-- A started vertex next to a core with a program of no-operations. -/
def busyVertex (latency instructions : Nat) :
    RamulatorHbmSimulator ℚ (List (Nat × Nat)) :=
  let simulator := singleVertex latency
  let core := (simulator.store.cores 0).loadProgram
    (List.replicate instructions {})
  { simulator with
    store := simulator.store.setCore 0 core
    attached := { simulator.attached with
      vpus := Function.update (fun _ => none) 0 (some 0) } }

/-- The core keeps the loop going after the program is done in the 27th cycle,
and the vertex is written back six times in 32 cycles. -/
theorem busyVertex_writes_back_again :
    ¬ ∀ cycles ≤ 32,
      (((busyVertex 2 29).runState cycles).store.programs 0).isDone = true →
        ((busyVertex 2 29).runState cycles).driver.writebacks
            (busyVertex 2 29).attached.router
            ((busyVertex 2 29).store.programs 0).cfg.outputAddr = 1 ∧
          ((busyVertex 2 29).runState cycles).verticesProcessed = 1 := by
  intro once
  have done : (((busyVertex 2 29).runState 32).store.programs 0).isDone =
      true := by
    decide +kernel
  have six : ((busyVertex 2 29).runState 32).verticesProcessed = 6 := by
    decide +kernel
  have one := (once 32 le_rfl done).2
  omega

end RamulatorHbmSimulator

end PimGraphs
