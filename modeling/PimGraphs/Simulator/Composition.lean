import PimGraphs.Simulator.Counters
import PimGraphs.Simulator.Writeback

/-!
# Two calls in a row

A second call starts its counters and its flags anew.  So it continues the
first one exactly when nothing the first one counted, or waited for, is still
on its way at the cut: then the longer call is the second one with the counts
of the first one added.
-/

namespace PimGraphs

namespace RunState

variable {F M : Type} (config : RunConfig F M)

section Program

variable (counts : Counts) (issued : Bool) (stats : VertexProgramStats)
variable (state : RunState F M) (ref : Nat)

/-- With the same flag the hidden state is requested at the same time. -/
theorem credit_requestHidden_same :
    (state.credit counts state.loadHIssued stats).requestHidden config ref =
      (state.requestHidden config ref).credit counts
        (state.requestHidden config ref).loadHIssued stats := by
  unfold requestHidden
  cases config.attached.router with
  | none => rfl
  | some router =>
      simp only [store_credit, loadHIssued_credit, credit_route]
      by_cases waits : (state.store.programs ref).phase = .applyUpdateLoadH ∧
          state.loadHIssued = false
      · rw [if_pos waits, if_pos waits]
        rfl
      · rw [if_neg waits, if_neg waits]

/-- Outside the phase that waits for it, it is not requested at all. -/
theorem requestHidden_of_phase_ne
    (other : (state.store.programs ref).phase ≠ .applyUpdateLoadH) :
    state.requestHidden config ref = state := by
  unfold requestHidden
  cases config.attached.router with
  | none => rfl
  | some router => simp [other]

theorem requestHidden_of_no_router
    (noRouter : config.attached.router = none) :
    state.requestHidden config ref = state := by
  simp [requestHidden, noRouter]

theorem loadHIssued_requestHidden :
    (state.requestHidden config ref).loadHIssued =
      (state.loadHIssued || (config.attached.router.isSome &&
        decide ((state.store.programs ref).phase = .applyUpdateLoadH))) := by
  unfold requestHidden
  cases config.attached.router with
  | none => simp
  | some router =>
      cases issued : state.loadHIssued <;>
        by_cases waits : (state.store.programs ref).phase =
          .applyUpdateLoadH <;>
        simp [issued, waits]

theorem loadHIssued_writebackVertex :
    (state.writebackVertex config ref).loadHIssued =
      (state.loadHIssued && !state.issuesWriteback config ref) := by
  unfold writebackVertex issuesWriteback
  cases config.attached.router with
  | none => simp
  | some router =>
      cases ready : (state.store.programs ref).writebackReady <;> simp [ready]

theorem credit_writebackVertex :
    (state.credit counts issued stats).writebackVertex config ref =
      (state.writebackVertex config ref).credit counts
        (issued && !state.issuesWriteback config ref) stats := by
  unfold writebackVertex issuesWriteback
  cases config.attached.router with
  | none => simp
  | some router =>
      cases ready : (state.store.programs ref).writebackReady with
      | false => simp [ready]
      | true =>
          simp only [store_credit, credit_route, ready, if_true,
            Option.isSome_some, Bool.and_self, Bool.not_true, Bool.and_false]
          simp [credit, Nat.add_assoc]

theorem issuesWriteback_credit :
    (state.credit counts issued stats).issuesWriteback config ref =
      state.issuesWriteback config ref := rfl

theorem credit_recordStats :
    ∃ recorded,
      (state.credit counts issued stats).recordStats ref =
        (state.recordStats ref).credit counts issued recorded := by
  unfold recordStats
  cases done : (state.store.programs ref).isDone with
  | false => exact ⟨stats, by simp [done]⟩
  | true => exact ⟨_, by simp [done]; rfl⟩

end Program

/-- The flag for the hidden-state read decides about nothing any more. -/
def FlagIdle (state : RunState F M) : Prop :=
  config.attached.router = none ∨
    ∀ ref, config.attached.vertexProgram = some ref →
      (state.store.programs ref).HiddenLoaded

/-- A flag a state may have instead of its own. -/
def FlagFits (issued : Bool) (state : RunState F M) : Prop :=
  issued = state.loadHIssued ∨ state.FlagIdle config

theorem flagIdle_of_no_program
    (state : RunState F M)
    (noProgram : config.attached.vertexProgram = none) :
    state.FlagIdle config := by
  refine Or.inr fun ref attached => ?_
  simp [noProgram] at attached

variable [Zero F] [One F] [Add F] [Sub F] [Mul F] [Div F] [NatCast F]

/-- Where the flag is idle, the program is beyond the phase that waits for the
hidden state when the flag is read. -/
theorem beyondLoad_tickedProgram
    {state : RunState F M}
    {ref : Nat}
    (loaded : (state.store.programs ref).HiddenLoaded) :
    ((state.tickedProgram config ref).store.programs ref).BeyondLoad := by
  rw [program_tickedProgram, programs_tickDatapath]
  exact TGNVertexProgram.beyondLoad_tick _ _ _ _ loaded

theorem credit_tickedProgram
    (counts : Counts)
    (issued : Bool)
    (stats : VertexProgramStats)
    (state : RunState F M)
    (ref : Nat) :
    (state.credit counts issued stats).tickedProgram config ref =
      (state.tickedProgram config ref).credit counts issued stats := by
  simp only [tickedProgram, credit_tickDatapath, credit_advanceProgram]

theorem status_cycle
    {config : RunConfig F M}
    (state : RunState F M)
    {ref : Nat}
    (attached : config.attached.vertexProgram = some ref) :
    ((state.cycle config).store.programs ref).status =
      ((state.tickedProgram config ref).store.programs ref).status := by
  rw [(cycle_leavesVertex config state ref).status,
    tickComponents_eq config state ref attached, recordStats_store,
    programs_writebackVertex,
    (LeavesVertex.requestHidden config _ ref).1]

theorem flagIdle_cycle
    {config : RunConfig F M}
    {state : RunState F M}
    (idle : state.FlagIdle config) :
    (state.cycle config).FlagIdle config := by
  refine idle.imp_right fun loaded ref attached => Or.inl ?_
  have beyond := beyondLoad_tickedProgram config (loaded ref attached)
  have phase := congrArg TGNVertexProgram.Status.phase
    (status_cycle state attached)
  unfold TGNVertexProgram.BeyondLoad at beyond ⊢
  rw [show ((state.cycle config).store.programs ref).phase = _ from phase]
  exact beyond

/-- A step that a credited state takes in step with the state itself. -/
def StepsAlong
    (counts : Counts)
    (issued : Bool)
    (stats : VertexProgramStats)
    (state : RunState F M) : Prop :=
  ∃ nextIssued nextStats,
    (state.credit counts issued stats).cycle config =
        (state.cycle config).credit counts nextIssued nextStats ∧
      (state.cycle config).FlagFits config nextIssued

theorem cycle_credit_of_tickComponents
    {config : RunConfig F M}
    {counts : Counts}
    {issued nextIssued : Bool}
    {stats nextStats : VertexProgramStats}
    {state : RunState F M}
    (components : (state.credit counts issued stats).tickComponents config =
      (state.tickComponents config).credit counts nextIssued nextStats) :
    (state.credit counts issued stats).cycle config =
      (state.cycle config).credit counts nextIssued nextStats := by
  unfold cycle
  rw [components, credit_runAdmission, credit_tickMemory]
  simp [credit, Nat.add_assoc]

/-- A cycle does not notice counts of an earlier call, nor a fitting flag. -/
theorem cycle_credit
    (counts : Counts)
    (issued : Bool)
    (stats : VertexProgramStats)
    (state : RunState F M)
    (fits : state.FlagFits config issued) :
    StepsAlong config counts issued stats state := by
  cases attached : config.attached.vertexProgram with
  | none =>
      refine ⟨issued, stats, cycle_credit_of_tickComponents ?_,
        Or.inr (flagIdle_of_no_program config _ attached)⟩
      simp only [tickComponents, credit_tickDatapath, tickVertexProgram,
        attached]
  | some ref =>
      have components := tickComponents_eq config
        (state.credit counts issued stats) ref attached
      rw [credit_tickedProgram] at components
      rcases fits with same | idle
      · have leaves : LeavesVertex config ref state
            (state.tickDatapath config).1 := LeavesVertex.tickDatapath state
        have flag : issued = (state.tickedProgram config ref).loadHIssued :=
          same.trans leaves.loadHIssued.symm
        rw [flag, credit_requestHidden_same, credit_writebackVertex,
          ← loadHIssued_writebackVertex] at components
        obtain ⟨recorded, recording⟩ := credit_recordStats counts
          (((state.tickedProgram config ref).requestHidden config
            ref).writebackVertex config ref).loadHIssued stats
          (((state.tickedProgram config ref).requestHidden config
            ref).writebackVertex config ref) ref
        rw [recording, ← tickComponents_eq config state ref attached,
          ← flag] at components
        refine ⟨_, _, cycle_credit_of_tickComponents components, Or.inl ?_⟩
        rw [(cycle_leavesVertex config state ref).loadHIssued,
          tickComponents_eq config state ref attached,
          recordStats_loadHIssued]
      · have skipped (other : RunState F M)
            (same : other.store.programs ref =
              (state.tickedProgram config ref).store.programs ref) :
            other.requestHidden config ref = other := by
          rcases idle with noRouter | loaded
          · exact requestHidden_of_no_router config other ref noRouter
          · apply requestHidden_of_phase_ne
            rw [same]
            intro waiting
            rcases beyondLoad_tickedProgram config (loaded ref attached) with
              phase | phase | phase | phase <;>
              rw [phase] at waiting <;> contradiction
        have plain := tickComponents_eq config state ref attached
        rw [skipped _ rfl] at plain
        rw [skipped (credit counts issued stats _) rfl,
          credit_writebackVertex] at components
        obtain ⟨recorded, recording⟩ := credit_recordStats counts _ stats
          ((state.tickedProgram config ref).writebackVertex config ref) ref
        rw [recording, ← plain] at components
        exact ⟨_, _, cycle_credit_of_tickComponents components,
          Or.inr (flagIdle_cycle idle)⟩

/-- Neither does a loop. -/
theorem loop_credit
    (counts : Counts)
    (budget : Nat)
    {issued : Bool}
    (stats : VertexProgramStats)
    {state : RunState F M}
    (fits : state.FlagFits config issued) :
    ∃ lastIssued lastStats,
      (state.credit counts issued stats).loop config budget =
        (state.loop config budget).credit counts lastIssued lastStats := by
  induction budget generalizing state issued stats with
  | zero => exact ⟨issued, stats, rfl⟩
  | succ budget inductionHypothesis =>
      unfold loop
      rw [hasWork_credit]
      split
      · obtain ⟨nextIssued, nextStats, along, nextFits⟩ :=
          cycle_credit config counts issued stats state fits
        rw [along]
        exact inductionHypothesis nextStats nextFits
      · exact ⟨issued, stats, rfl⟩

/-- The flag is raised only while a program is updating, and only with a
router. -/
def FlagPhase (ref : Nat) (state : RunState F M) : Prop :=
  state.loadHIssued = true →
    config.attached.router.isSome = true ∧
      (state.store.programs ref).Updating

theorem FlagPhase.cycle
    {config : RunConfig F M}
    {state : RunState F M}
    {ref : Nat}
    (attached : config.attached.vertexProgram = some ref)
    (flagPhase : state.FlagPhase config ref) :
    (state.cycle config).FlagPhase config ref := by
  intro raised
  have before : LeavesVertex config ref state (state.tickDatapath config).1 :=
    .tickDatapath state
  rw [(cycle_leavesVertex config state ref).loadHIssued,
    tickComponents_eq config state ref attached, recordStats_loadHIssued,
    loadHIssued_writebackVertex, Bool.and_eq_true, Bool.not_eq_true',
    loadHIssued_requestHidden, Bool.or_eq_true, Bool.and_eq_true] at raised
  obtain ⟨kept | ⟨router, waits⟩, notIssued⟩ := raised
  · have wasRaised : state.loadHIssued = true :=
      before.loadHIssued.symm.trans kept
    obtain ⟨router, updating⟩ := flagPhase wasRaised
    refine ⟨router, ?_⟩
    have ticked : ((state.tickDatapath config).1.store.programs
        ref).Updating := by
      rw [programs_tickDatapath]
      exact updating
    rcases TGNVertexProgram.updating_tick config.ops _ _
        (state.tickDatapath config).2.vectors ticked with still | ready
    · rw [← program_tickedProgram] at still
      unfold TGNVertexProgram.Updating at still ⊢
      rw [show ((state.cycle config).store.programs ref).phase = _ from
        congrArg TGNVertexProgram.Status.phase (status_cycle state attached)]
      exact still
    · rw [← program_tickedProgram,
        ← (LeavesVertex.requestHidden config _ ref).1] at ready
      rw [issuesWriteback, router, ready] at notIssued
      exact Bool.noConfusion notIssued
  · refine ⟨router, Or.inl ?_⟩
    exact (congrArg TGNVertexProgram.Status.phase
      (status_cycle state attached)).trans (of_decide_eq_true waits)

/-- The hidden state has been requested in this call and has not arrived. -/
def AwaitsHidden (state : RunState F M) : Prop :=
  config.attached.router.isSome = true ∧
    ∃ ref, config.attached.vertexProgram = some ref ∧
      (state.store.programs ref).phase = .applyUpdateLoadH ∧
        (state.store.programs ref).hLoadDone = false ∧
          state.loadHIssued = true

/-- What a call has counted. -/
def counts (state : RunState F M) : Counts where
  completed := state.driver.completed
  bytesDone := state.driver.bytesDone
  tsvBytesAdmitted := state.driver.tsvBytesAdmitted
  history := state.driver.history
  verticesProcessed := state.verticesProcessed
  cycles := state.cycles

end RunState

namespace RamulatorHbmSimulator

variable {F M : Type} [Zero F] [One F] [Add F] [Sub F] [Mul F] [Div F]
variable [NatCast F]

/-- Two calls leave the simulator as one call with both budgets does, and
their results add up to its result. -/
structure CallsCompose
    (simulator : RamulatorHbmSimulator F M)
    (first second : Nat) : Prop where
  left_behind : ((simulator.run first).1.run second).1 =
    (simulator.run (first + second)).1
  burstsCompleted : (simulator.run first).2.burstsCompleted +
      ((simulator.run first).1.run second).2.burstsCompleted =
    (simulator.run (first + second)).2.burstsCompleted
  bytesMoved : (simulator.run first).2.bytesMoved +
      ((simulator.run first).1.run second).2.bytesMoved =
    (simulator.run (first + second)).2.bytesMoved
  tsvBytesAdmitted : (simulator.run first).2.tsvBytesAdmitted +
      ((simulator.run first).1.run second).2.tsvBytesAdmitted =
    (simulator.run (first + second)).2.tsvBytesAdmitted
  memoryCycles : (simulator.run first).2.memoryCycles +
      ((simulator.run first).1.run second).2.memoryCycles =
    (simulator.run (first + second)).2.memoryCycles
  verticesProcessed : (simulator.run first).2.verticesProcessed +
      ((simulator.run first).1.run second).2.verticesProcessed =
    (simulator.run (first + second)).2.verticesProcessed

/-- A call may be cut after a number of cycles: it has stopped by itself, or
no read it admitted is in flight and it does not wait for a hidden state it
has requested. -/
def CutClean (simulator : RamulatorHbmSimulator F M) (first : Nat) : Prop :=
  (simulator.runState first).hasWork simulator.runConfig = false ∨
    ((simulator.runState first).driver.outstandingRequests = 0 ∧
      ¬ (simulator.runState first).AwaitsHidden simulator.runConfig)

theorem runState_add
    (simulator : RamulatorHbmSimulator F M)
    (first second : Nat) :
    simulator.runState (first + second) =
      (simulator.runState first).loop simulator.runConfig second :=
  RunState.loop_add _ first second _

/-- A second call composes with the first when the longer call is the second
one with the counts of the first added. -/
theorem callsCompose_of_credit
    {simulator : RamulatorHbmSimulator F M}
    {first second : Nat}
    {issued : Bool}
    {stats : VertexProgramStats}
    (along : simulator.runState (first + second) =
      ((simulator.run first).1.runState second).credit
        (simulator.runState first).counts issued stats) :
    simulator.CallsCompose first second where
  left_behind := by
    change _ = simulator.leave (simulator.runState (first + second))
    rw [along]
    rfl
  burstsCompleted := by
    change _ = (simulator.runState (first + second)).driver.completed
    rw [along]
    rfl
  bytesMoved := by
    change _ = (simulator.runState (first + second)).driver.bytesDone
    rw [along]
    rfl
  tsvBytesAdmitted := by
    change _ = (simulator.runState (first + second)).driver.tsvBytesAdmitted
    rw [along]
    rfl
  memoryCycles := by
    change _ = (simulator.runState (first + second)).cycles
    rw [along]
    rfl
  verticesProcessed := by
    change _ = (simulator.runState (first + second)).verticesProcessed
    rw [along]
    rfl

/-- Where no read of the call is in flight, the state at the cut is the one a
second call starts from, with the counts of the first added. -/
theorem runState_eq_credit
    {simulator : RamulatorHbmSimulator F M}
    (wellFormed : simulator.WellFormed)
    {first : Nat}
    (noneOutstanding :
      (simulator.runState first).driver.outstandingRequests = 0) :
    simulator.runState first =
      (simulator.run first).1.enter.credit (simulator.runState first).counts
        (simulator.runState first).loadHIssued
        (simulator.runState first).vertexProgramStats := by
  have accounts := (runState_balanced wellFormed first).accounts
  have noLive : (simulator.runState first).driver.liveRequests = [] := by
    rw [← List.length_eq_zero_iff, ← accounts.outstanding, noneOutstanding]
  have allDead : ∀ entry ∈ (simulator.runState first).driver.inflight,
      entry.2.live = false := by
    simpa [Driver.liveRequests] using noLive
  have sameTable : (simulator.runState first).driver.inflight.map
      (fun entry => (entry.1, { entry.2 with live := false })) =
        (simulator.runState first).driver.inflight := by
    refine (List.map_congr_left fun entry member => ?_).trans (List.map_id _)
    rw [← allDead entry member]
    rfl
  have noSparse :
      (simulator.runState first).driver.standardSparseInflight = 0 := by
    rw [accounts.sparse, noLive, List.countP_nil]
  apply RunState.ext
  case store => rfl
  case driver =>
    apply Driver.ext
    case mux => rfl
    case memory => rfl
    case inflight => exact sameTable.symm
    case nextSlot => rfl
    case completed => rfl
    case bytesDone => rfl
    case outstandingRequests => exact noneOutstanding
    case standardSparseInflight => exact noSparse
    case tsvBytesAdmitted => rfl
    case history => exact (List.append_nil _).symm
  case loadHIssued => rfl
  case verticesProcessed => rfl
  case vertexProgramStats => rfl
  case cycles => rfl

theorem flagPhase_runState
    (simulator : RamulatorHbmSimulator F M)
    {ref : Nat}
    (attached : simulator.attached.vertexProgram = some ref)
    (cycles : Nat) :
    (simulator.runState cycles).FlagPhase simulator.runConfig ref := by
  induction cycles with
  | zero => exact fun raised => Bool.noConfusion raised
  | succ cycles inductionHypothesis =>
      rw [runState_succ]
      split
      · exact inductionHypothesis.cycle attached
      · exact inductionHypothesis

/-- Where the call does not wait for a hidden state, a second call may start
with a lowered flag. -/
theorem flagFits_cut
    {simulator : RamulatorHbmSimulator F M}
    {first : Nat}
    (notWaiting :
      ¬ (simulator.runState first).AwaitsHidden simulator.runConfig) :
    (simulator.run first).1.enter.FlagFits simulator.runConfig
      (simulator.runState first).loadHIssued := by
  cases raised : (simulator.runState first).loadHIssued with
  | false => exact Or.inl rfl
  | true =>
      cases router : simulator.attached.router with
      | none => exact Or.inr (Or.inl router)
      | some _ =>
          refine Or.inr (Or.inr fun ref attached => ?_)
          obtain ⟨hasRouter, loading | gru | writeback⟩ :=
            flagPhase_runState simulator attached first raised
          · refine Or.inr ⟨loading, ?_⟩
            by_contra notLoaded
            exact notWaiting ⟨hasRouter, ref, attached, loading,
              Bool.not_eq_true _ ▸ notLoaded, raised⟩
          · exact Or.inl (Or.inl gru)
          · exact Or.inl (Or.inr (Or.inl writeback))

/-- A call that has stopped leaves nothing to do for a second one. -/
theorem callsCompose_of_stopped
    {simulator : RamulatorHbmSimulator F M}
    {first : Nat}
    (stopped : (simulator.runState first).hasWork simulator.runConfig = false)
    (second : Nat) :
    simulator.CallsCompose first second := by
  have longer : simulator.runState (first + second) =
      simulator.runState first :=
    runState_of_not_hasWork stopped (Nat.le_add_right _ _)
  have again : (simulator.run first).1.enter.hasWork simulator.runConfig =
      false := by
    simp only [RunState.hasWork, Bool.or_eq_false_iff,
      decide_eq_false_iff_not] at stopped ⊢
    exact ⟨stopped.1, Nat.lt_irrefl 0⟩
  have idle : (simulator.run first).1.runState second =
      (simulator.run first).1.enter :=
    RunState.loop_of_not_hasWork _ again second
  have emptied : (simulator.run first).1.leave (simulator.run first).1.enter =
      (simulator.run first).1 := by
    simp [run, leave, enter, Function.comp_def]
  have nothing : ((simulator.run first).1.run second).2 =
      result (simulator.run first).1.enter :=
    congrArg result idle
  have same : (simulator.run (first + second)).2 = (simulator.run first).2 :=
    congrArg result longer
  constructor
  case left_behind =>
    change (simulator.run first).1.leave
        ((simulator.run first).1.runState second) =
      simulator.leave (simulator.runState (first + second))
    rw [idle, emptied, longer]
    rfl
  all_goals
    rw [nothing, same]
    rfl

/-- Two calls compose where the cut is clean. -/
theorem callsCompose_of_cutClean
    {simulator : RamulatorHbmSimulator F M}
    (wellFormed : simulator.WellFormed)
    {first : Nat}
    (clean : simulator.CutClean first)
    (second : Nat) :
    simulator.CallsCompose first second := by
  rcases clean with stopped | ⟨noneOutstanding, notWaiting⟩
  · exact callsCompose_of_stopped stopped second
  · have cut := runState_eq_credit wellFormed noneOutstanding
    obtain ⟨issued, stats, along⟩ := RunState.loop_credit simulator.runConfig
      (simulator.runState first).counts second
      (simulator.runState first).vertexProgramStats (flagFits_cut notWaiting)
    rw [← cut, ← runState_add] at along
    exact callsCompose_of_credit along

end RamulatorHbmSimulator

end PimGraphs
