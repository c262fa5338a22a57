import PimGraphs.Simulator.Message
import PimGraphs.Simulator.Writeback

/-!
# Draining a shared accumulation unit

While the program drains the accumulation unit the simulator keeps ticking the
same unit once a cycle, before the program does.  Valid bits carry no tag, so
the program accepts the first valid entry that comes out at one of its own
ticks: the one in the third stage when the drain is entered, else the one in
the first stage, else its own.
-/

namespace PimGraphs

/-- What the drain of the accumulation unit works on. -/
@[ext] structure PsauDrain (F : Type) where
  psau : Nat
  unit : PartialSumAccumulationUnit F
  phase : VertexProgramPhase
  psauFlushCount : Nat
  partialSumInputs : Fin 16 → Vec16 F
  aggregatedMessage : Vec16 F

/-- The drain of a program in a store. -/
def Store.drain {F : Type} (store : Store F) (ref : Nat) : PsauDrain F where
  psau := (store.programs ref).psau
  unit := store.psaus (store.programs ref).psau
  phase := (store.programs ref).phase
  psauFlushCount := (store.programs ref).psauFlushCount
  partialSumInputs := (store.programs ref).partialSumInputs
  aggregatedMessage := (store.programs ref).aggregatedMessage

namespace PsauDrain

variable {F : Type}

/-- The simulator's tick of the unit. -/
def clock [Add F] (state : PsauDrain F) (inputs : RunState.TreeInputs F) :
    PsauDrain F :=
  { state with unit := (state.unit.tick inputs.vectors inputs.valid).2.2 }

/-- The program's tick of the unit. -/
def advance [Add F] (state : PsauDrain F) : PsauDrain F :=
  let (outputValid, psauOut, unit) :=
    state.unit.tick state.partialSumInputs (decide (state.psauFlushCount = 0))
  let flushed : PsauDrain F :=
    { state with
      unit := unit
      psauFlushCount := state.psauFlushCount + 1 }
  if outputValid ∨
      TGNVertexProgram.kPSAUDepth + 2 < state.psauFlushCount + 1 then
    { flushed with
      aggregatedMessage := psauOut
      phase := .applyUpdateLoadH }
  else flushed

/-- A cycle that drains. -/
def cycle [Add F] (state : PsauDrain F) (inputs : RunState.TreeInputs F) :
    PsauDrain F :=
  (state.clock inputs).advance

/-- At the entry of the drain: the vector the program accepts. -/
def accepted [Add F] (state : PsauDrain F) : Vec16 F :=
  if state.unit.validBits 2 then
    PartialSumAccumulationUnit.addPairs (n := 1) state.unit.stage3Regs 0
  else if state.unit.validBits 0 then
    PartialSumAccumulationUnit.addPairs (n := 1)
      (PartialSumAccumulationUnit.addPairs (n := 2)
        (PartialSumAccumulationUnit.addPairs (n := 4)
          state.unit.stage1Regs)) 0
  else PartialSumAccumulationUnit.reduce state.partialSumInputs

section Entry

variable [Add F] (state : PsauDrain F)

theorem advance_of_invalid
    (invalid : state.unit.validBits 3 = false)
    (early : state.psauFlushCount < 6) :
    state.advance =
      { state with
        unit := (state.unit.tick state.partialSumInputs
          (decide (state.psauFlushCount = 0))).2.2
        psauFlushCount := state.psauFlushCount + 1 } := by
  apply if_neg
  rintro (valid | late)
  · exact Bool.noConfusion (invalid.symm.trans valid)
  · exact Nat.not_le_of_lt early (Nat.le_of_lt_succ late)

theorem advance_of_valid (valid : state.unit.validBits 3 = true) :
    state.advance =
      { state with
        unit := (state.unit.tick state.partialSumInputs
          (decide (state.psauFlushCount = 0))).2.2
        psauFlushCount := state.psauFlushCount + 1
        aggregatedMessage := state.unit.stage4Out
        phase := .applyUpdateLoadH } :=
  if_pos (Or.inl valid)

/-- A cycle accepts the entry of the third stage if that is valid. -/
theorem cycle_of_valid
    (inputs : RunState.TreeInputs F)
    (valid : state.unit.validBits 2 = true) :
    (state.cycle inputs).phase = .applyUpdateLoadH ∧
      (state.cycle inputs).aggregatedMessage =
        PartialSumAccumulationUnit.addPairs (n := 1)
          state.unit.stage3Regs 0 := by
  unfold cycle
  rw [advance_of_valid (state.clock inputs) valid]
  exact ⟨rfl, rfl⟩

/-- Otherwise it moves every entry two stages on. -/
theorem cycle_of_invalid
    (inputs : RunState.TreeInputs F)
    (invalid : state.unit.validBits 2 = false)
    (early : state.psauFlushCount < 6) :
    state.cycle inputs =
      { state with
        unit := (((state.unit.tick inputs.vectors inputs.valid).2.2).tick
          state.partialSumInputs (decide (state.psauFlushCount = 0))).2.2
        psauFlushCount := state.psauFlushCount + 1 } := by
  unfold cycle
  rw [advance_of_invalid (state.clock inputs) invalid early]
  rfl

end Entry

/-! ## The drain of one vertex -/

/-- Along a trace, the drain is left with a message. -/
def LeavesWith (trace : Nat → PsauDrain F) (message : Vec16 F) : Prop :=
  ∃ exit,
    (∀ time, time ≤ exit → (trace time).phase = .genUpdatePsauDrain) ∧
    (trace (exit + 1)).phase = .applyUpdateLoadH ∧
    (trace (exit + 1)).aggregatedMessage = message

section Leaves

variable {trace : Nat → PsauDrain F} {first second : Vec16 F}

/-- There is one such message. -/
theorem LeavesWith.unique
    (one : LeavesWith trace first)
    (other : LeavesWith trace second) :
    first = second := by
  obtain ⟨exit, before, left, rfl⟩ := one
  obtain ⟨otherExit, otherBefore, otherLeft, rfl⟩ := other
  rcases Nat.lt_trichotomy exit otherExit with less | same | more
  · rw [otherBefore (exit + 1) less] at left
    exact VertexProgramPhase.noConfusion left
  · rw [same]
  · rw [before (otherExit + 1) more] at otherLeft
    exact VertexProgramPhase.noConfusion otherLeft

/-- The drain is left a cycle later when it goes on for one. -/
theorem LeavesWith.later
    (draining : (trace 0).phase = .genUpdatePsauDrain)
    (leaves : LeavesWith (fun time => trace (time + 1)) first) :
    LeavesWith trace first := by
  obtain ⟨exit, before, left, message⟩ := leaves
  refine ⟨exit + 1, ?_, left, message⟩
  intro time inside
  cases time with
  | zero => exact draining
  | succ time => exact before time (Nat.le_of_succ_le_succ inside)

variable [Add F]

/-- A valid entry in the third stage is accepted in the next cycle. -/
theorem leavesWith_of_valid
    (draining : (trace 0).phase = .genUpdatePsauDrain)
    {inputs : RunState.TreeInputs F}
    (next : trace 1 = (trace 0).cycle inputs)
    (valid : (trace 0).unit.validBits 2 = true) :
    LeavesWith trace (PartialSumAccumulationUnit.addPairs (n := 1)
      (trace 0).unit.stage3Regs 0) := by
  obtain ⟨left, message⟩ := (trace 0).cycle_of_valid inputs valid
  rw [← next] at left message
  refine ⟨0, ?_, left, message⟩
  intro time inside
  rw [Nat.le_zero.mp inside]
  exact draining

/-- From its entry, the drain is left with the accepted vector. -/
theorem leavesWith_accepted
    (steps : ∀ time, (trace time).phase = .genUpdatePsauDrain →
      (trace time).psau = (trace 0).psau →
        ∃ inputs, trace (time + 1) = (trace time).cycle inputs)
    (draining : (trace 0).phase = .genUpdatePsauDrain)
    (fresh : (trace 0).psauFlushCount = 0) :
    LeavesWith trace (trace 0).accepted := by
  unfold accepted
  obtain ⟨inputs, atOne⟩ := steps 0 draining rfl
  split
  case isTrue valid => exact leavesWith_of_valid draining atOne valid
  case isFalse invalid =>
    rw [(trace 0).cycle_of_invalid inputs (Bool.eq_false_iff.mpr invalid)
      (by rw [fresh]; decide)] at atOne
    have drainingOne : (trace 1).phase = .genUpdatePsauDrain := by
      rw [atOne]
      exact draining
    obtain ⟨inputsOne, atTwo⟩ := steps 1 drainingOne (by rw [atOne])
    have earlyOne : (trace 1).psauFlushCount < 6 := by
      rw [atOne]
      show (trace 0).psauFlushCount + 1 < 6
      rw [fresh]
      decide
    -- the first stage has moved to the third, and the own entry follows it
    have bit : (trace 1).unit.validBits 2 = (trace 0).unit.validBits 0 := by
      rw [atOne]
      rfl
    apply LeavesWith.later draining
    split
    case isTrue valid =>
      have leaves : LeavesWith (fun time => trace (time + 1)) _ :=
        leavesWith_of_valid drainingOne atTwo (bit.trans valid)
      rw [atOne] at leaves
      exact leaves
    case isFalse alsoInvalid =>
      rw [(trace 1).cycle_of_invalid inputsOne
        (bit.trans (Bool.eq_false_iff.mpr alsoInvalid))
        earlyOne] at atTwo
      have drainingTwo : (trace 2).phase = .genUpdatePsauDrain := by
        rw [atTwo]
        exact drainingOne
      obtain ⟨inputsTwo, atThree⟩ := steps 2 drainingTwo
        (by rw [atTwo, atOne])
      have own : (trace 2).unit.validBits 2 = true := by
        rw [atTwo, atOne]
        exact decide_eq_true fresh
      have leaves : LeavesWith (fun time => trace (time + 2)) _ :=
        leavesWith_of_valid drainingTwo atThree own
      rw [atTwo, atOne] at leaves
      exact LeavesWith.later drainingOne leaves

end Leaves

end PsauDrain

namespace RunState

open PsauDrain (leavesWith_accepted)

variable {F M : Type}

/-! ## A cycle of the simulator -/

section Frame

variable (config : RunConfig F M) (state : RunState F M) (ref : Nat)

theorem psaus_issuePiccolo :
    (state.issuePiccolo config).store.psaus = state.store.psaus := by
  unfold issuePiccolo
  cases config.attached.piccolo with
  | none => rfl
  | some piccolo =>
      simp only
      split <;> rfl

theorem psaus_tickRouter :
    (state.tickRouter config).store.psaus = state.store.psaus := by
  unfold tickRouter
  cases config.attached.router <;> rfl

theorem drain_requestHidden :
    (state.requestHidden config ref).store.drain ref =
      state.store.drain ref := by
  unfold requestHidden
  simp only
  split
  · rfl
  · split <;> rfl

theorem drain_writebackVertex :
    (state.writebackVertex config ref).store.drain ref =
      state.store.drain ref := by
  unfold writebackVertex
  simp only
  split
  · rfl
  · split <;> rfl

/-- Callbacks at most deliver a hidden state to a program. -/
theorem drain_runCallback
    [Zero F]
    [One F]
    (store : Store F)
    (callback : Callback) :
    (runCallback store callback).drain ref = store.drain ref := by
  cases callback with
  | loadHidden program =>
      by_cases same : ref = program
      · subst same
        simp [runCallback, Store.setProgram, Store.drain,
          TGNVertexProgram.deliverHidden]
      · simp [runCallback, Store.setProgram, Store.drain, same]
  | readComplete piccolo => rfl
  | loadReply core => rfl
  | host tag => rfl

theorem drain_tickMemory
    [Zero F]
    [One F] :
    (state.tickMemory config).store.drain ref = state.store.drain ref := by
  unfold tickMemory
  apply Sweep.observe_foldl
    (fun reached : RunState F M => reached.store.drain ref)
  intro reached slot
  rw [completeSlot_eq]
  simp only
  split
  · rfl
  · exact drain_runCallback ref _ _

/-- The attached unit is ticked with the tree inputs. -/
theorem psaus_tickPsau
    [Add F]
    {psau : Nat}
    (attached : config.attached.psau = some psau)
    (inputs : TreeInputs F) :
    (state.tickPsau config inputs).store.psaus =
      Function.update state.store.psaus psau
        ((state.store.psaus psau).tick inputs.vectors inputs.valid).2.2 := by
  unfold tickPsau
  rw [attached]
  simp only
  split <;> rfl

variable [Zero F] [One F] [Add F] [Sub F] [Mul F] [Div F] [NatCast F]

theorem psaus_tickVault
    (progress : RunState F M × TreeInputs F)
    (vault : Fin 16) :
    (tickVault config progress vault).1.store.psaus =
      progress.1.store.psaus := by
  unfold tickVault
  cases config.attached.vpus vault with
  | none => rfl
  | some core =>
      have ticked : (progress.1.tickCore config core).store.psaus =
          progress.1.store.psaus := by
        simp only [tickCore, route, Store.setRouter,
          SIMDCore.psaus_installTick]
      simp only
      split
      · exact ticked
      · exact ticked

theorem psaus_tickVaults :
    (state.tickVaults config).1.store.psaus = state.store.psaus := by
  apply Sweep.observe_foldl
    (fun progress : RunState F M × TreeInputs F => progress.1.store.psaus)
  intro progress vault
  apply psaus_tickVault

end Frame

theorem drain_setProgram_countCycle
    (store : Store F)
    (ref : Nat)
    {program : TGNVertexProgram F}
    (same : store.programs ref = program) :
    (store.setProgram ref program.countCycle).drain ref = store.drain ref := by
  simp [Store.drain, Store.setProgram, TGNVertexProgram.countCycle, same]

/-- The program's tick of the unit, on the drain. -/
theorem drain_tickPsauDrain
    [Add F]
    (program : TGNVertexProgram F)
    (store : Store F)
    (ref : Nat) :
    ((program.tickPsauDrain store).2.setProgram ref
        (program.tickPsauDrain store).1).drain ref =
      ((store.setProgram ref program).drain ref).advance := by
  unfold TGNVertexProgram.tickPsauDrain PsauDrain.advance
  simp only [Store.drain, Store.setProgram, Store.setPsau,
    Function.update_self]
  split
  case isTrue valid =>
    rw [if_pos (Or.inl valid)]
    simp [TGNVertexProgram.acceptMessage]
  case isFalse invalid =>
    split
    case isTrue late =>
      rw [if_pos (Or.inr late)]
      simp [TGNVertexProgram.acceptMessage]
    case isFalse early =>
      rw [if_neg (not_or.mpr ⟨invalid, early⟩)]
      simp

theorem psaus_clockVaults
    [Zero F]
    [Add F]
    [Mul F]
    (program : TGNVertexProgram F)
    (store : Store F) :
    ((List.finRange 16).foldl program.clockVault store).psaus =
      store.psaus := by
  apply TGNVertexProgram.observe_clockVaults
    (fun store : Store F => store.psaus)
  · exact fun _ _ _ => rfl
  · exact fun _ _ _ => rfl

/-- The program's last tick that computes, on the drain. -/
theorem drain_tickGenUpdateCompute
    [Zero F]
    [Add F]
    [Mul F]
    (program : TGNVertexProgram F)
    (store : Store F)
    (ref : Nat)
    (last : 16 ≤ program.computeCycles + 1)
    (saOutputs : Fin 16 → Vec16 F) :
    ((program.tickGenUpdateCompute store saOutputs).2.setProgram ref
        (program.tickGenUpdateCompute store saOutputs).1).drain ref =
      { (store.setProgram ref program).drain ref with
        phase := .genUpdatePsauDrain
        psauFlushCount := 0
        partialSumInputs := saOutputs } := by
  unfold TGNVertexProgram.tickGenUpdateCompute
  simp only [if_pos last, Store.drain, Store.setProgram, psaus_clockVaults,
    Function.update_self]

section Cycle

variable [Field F] {config : RunConfig F M} {ref : Nat}

/-- The part of a cycle before the program ticks the unit once. -/
theorem drain_tickDatapath
    (state : RunState F M)
    (shared : config.attached.psau = some (state.store.drain ref).psau) :
    (state.tickDatapath config).1.store.drain ref =
      (state.store.drain ref).clock (state.tickDatapath config).2 := by
  have programs := programs_tickDatapath config state
  have before : (((state.issuePiccolo config).tickRouter config).tickVaults
      config).1.store.psaus = state.store.psaus := by
    rw [psaus_tickVaults, psaus_tickRouter, psaus_issuePiccolo]
  have psaus : (state.tickDatapath config).1.store.psaus =
      Function.update state.store.psaus (state.store.drain ref).psau
        ((state.store.drain ref).unit.tick (state.tickDatapath config).2.vectors
          (state.tickDatapath config).2.valid).2.2 := by
    unfold tickDatapath
    simp only
    rw [psaus_tickPsau config _ shared, before]
    rfl
  ext1
  · simp only [Store.drain, programs]
    rfl
  · simp only [Store.drain, programs, psaus, Function.update_self]
    rfl
  · simp only [Store.drain, programs]
    rfl
  · simp only [Store.drain, programs]
    rfl
  · simp only [Store.drain, programs]
    rfl
  · simp only [Store.drain, programs]
    rfl

/-- The program ticks it once more. -/
theorem drain_advanceProgram
    (config : RunConfig F M)
    (state : RunState F M)
    (draining : (state.store.drain ref).phase = .genUpdatePsauDrain)
    (inputs : TreeInputs F) :
    (state.advanceProgram config ref inputs).store.drain ref =
      (state.store.drain ref).advance := by
  have phase : (state.store.programs ref).phase = .genUpdatePsauDrain :=
    draining
  have ticked := drain_tickPsauDrain (state.store.programs ref).countCycle
    state.store ref
  rw [drain_setProgram_countCycle state.store ref rfl] at ticked
  unfold advanceProgram TGNVertexProgram.tick
  rw [phase]
  exact ticked

/-- A cycle of the simulator is a cycle of the drain. -/
theorem drain_cycle
    (state : RunState F M)
    (attached : config.attached.vertexProgram = some ref)
    (shared : config.attached.psau = some (state.store.drain ref).psau)
    (draining : (state.store.drain ref).phase = .genUpdatePsauDrain) :
    (state.cycle config).store.drain ref =
      (state.store.drain ref).cycle (state.tickDatapath config).2 := by
  have clocked := drain_tickDatapath state shared
  have phase : ((state.tickDatapath config).1.store.drain ref).phase =
      .genUpdatePsauDrain := by
    rw [clocked]
    exact draining
  have advanced := drain_advanceProgram config
    (state.tickDatapath config).1 phase (state.tickDatapath config).2
  have components : (state.tickComponents config).store.drain ref =
      (state.store.drain ref).cycle (state.tickDatapath config).2 := by
    rw [tickComponents_eq config state ref attached, recordStats_store,
      drain_writebackVertex, drain_requestHidden]
    apply advanced.trans
    rw [clocked]
    rfl
  refine Eq.trans ?_ components
  exact drain_tickMemory config ((state.tickComponents config).runAdmission
    config) ref

end Cycle

/-! ## From the entry of the drain -/

section Entry

variable [Field F] (config : RunConfig F M) (ref : Nat) (state : RunState F M)

/-- The attached program has just entered the drain of the unit the simulator
ticks. -/
structure EntersDrain : Prop where
  attached : config.attached.vertexProgram = some ref
  shared : config.attached.psau = some (state.store.drain ref).psau
  draining : (state.store.drain ref).phase = .genUpdatePsauDrain
  fresh : (state.store.drain ref).psauFlushCount = 0

/-- Cycle after cycle, the program drains the unit and leaves the drain with a
message. -/
def LeavesDrainWith (message : Vec16 F) : Prop :=
  PsauDrain.LeavesWith
    (fun cycles => (state.afterCycles config cycles).store.drain ref) message

/-- The element-wise sum of the latched inputs. -/
def latchedSum : Vec16 F :=
  fun lane => ∑ vault, (state.store.drain ref).partialSumInputs vault lane

variable {config ref state}

/-- The program leaves the drain with the vector it accepts. -/
theorem leavesDrainWith_accepted (enters : state.EntersDrain config ref) :
    state.LeavesDrainWith config ref (state.store.drain ref).accepted := by
  refine leavesWith_accepted ?_ enters.draining enters.fresh
  intro cycles draining samePsau
  have shared : config.attached.psau =
      some ((state.afterCycles config cycles).store.drain ref).psau := by
    rw [samePsau]
    exact enters.shared
  have next := drain_cycle (state.afterCycles config cycles) enters.attached
    shared draining
  rw [← afterCycles_succ] at next
  exact ⟨_, next⟩

/-- What the entry of the drain has to look like: the first valid entry that
comes out at a tick of the program has the sum of the latched inputs. -/
structure DrainsOwn (state : RunState F M) (ref : Nat) : Prop where
  third : (state.store.drain ref).unit.validBits 2 = true →
    PartialSumAccumulationUnit.addPairs (n := 1)
      (state.store.drain ref).unit.stage3Regs 0 = state.latchedSum ref
  first : (state.store.drain ref).unit.validBits 2 = false →
    (state.store.drain ref).unit.validBits 0 = true →
      PartialSumAccumulationUnit.addPairs (n := 1)
        (PartialSumAccumulationUnit.addPairs (n := 2)
          (PartialSumAccumulationUnit.addPairs (n := 4)
            (state.store.drain ref).unit.stage1Regs)) 0 =
        state.latchedSum ref

theorem reduce_latched (state : RunState F M) (ref : Nat) :
    PartialSumAccumulationUnit.reduce
      (state.store.drain ref).partialSumInputs = state.latchedSum ref := by
  funext lane
  exact PartialSumAccumulationUnit.reduce_apply _ lane

theorem accepted_eq_iff (state : RunState F M) (ref : Nat) :
    (state.store.drain ref).accepted = state.latchedSum ref ↔
      state.DrainsOwn ref := by
  unfold PsauDrain.accepted
  split
  case isTrue third =>
    constructor
    · intro same
      exact ⟨fun _ => same, fun invalid =>
        absurd third (Bool.eq_false_iff.mp invalid)⟩
    · intro own
      exact own.third third
  case isFalse invalid =>
    have noThird := Bool.eq_false_iff.mpr invalid
    split
    case isTrue first =>
      constructor
      · intro same
        exact ⟨fun third => absurd third invalid, fun _ _ => same⟩
      · intro own
        exact own.first noThird first
    case isFalse alsoInvalid =>
      constructor
      · intro _
        exact ⟨fun third => absurd third invalid,
          fun _ first => absurd first alsoInvalid⟩
      · intro _
        exact reduce_latched state ref

theorem drainsOwn_of_leavesDrainWith
    (enters : state.EntersDrain config ref)
    (leaves : state.LeavesDrainWith config ref (state.latchedSum ref)) :
    state.DrainsOwn ref :=
  (accepted_eq_iff state ref).mp
    ((leavesDrainWith_accepted enters).unique leaves)

/-- The message is the sum of the inputs latched for this vertex exactly when
no valid entry of other inputs with another sum comes out before. -/
theorem leavesDrainWith_latchedSum_iff
    (enters : state.EntersDrain config ref) :
    state.LeavesDrainWith config ref (state.latchedSum ref) ↔
      state.DrainsOwn ref := by
  constructor
  · intro leaves
    exact drainsOwn_of_leavesDrainWith enters leaves
  · intro own
    rw [← (accepted_eq_iff state ref).mpr own]
    exact leavesDrainWith_accepted enters

/-! ## The cycle that enters the drain -/

section Latching

variable (state : RunState F M)
  (attached : config.attached.vertexProgram = some ref)
  (shared : config.attached.psau = some (state.store.drain ref).psau)
  (computing : (state.store.programs ref).phase = .genUpdateCompute)
  (last : 16 ≤ (state.store.programs ref).computeCycles + 1)
include attached shared computing last

/-- The last cycle that computes latches the tree inputs the unit has just
been ticked with. -/
theorem drain_cycle_of_last :
    (state.cycle config).store.drain ref =
      { (state.store.drain ref).clock (state.tickDatapath config).2 with
        phase := .genUpdatePsauDrain
        psauFlushCount := 0
        partialSumInputs := (state.tickDatapath config).2.vectors } := by
  have clocked := drain_tickDatapath state shared
  have programs := programs_tickDatapath config state
  have advanced : (state.tickedProgram config ref).store.drain ref =
      { (state.tickDatapath config).1.store.drain ref with
        phase := .genUpdatePsauDrain
        psauFlushCount := 0
        partialSumInputs := (state.tickDatapath config).2.vectors } := by
    have ticked := drain_tickGenUpdateCompute
      (state.store.programs ref).countCycle (state.tickDatapath config).1.store
      ref last (state.tickDatapath config).2.vectors
    rw [drain_setProgram_countCycle _ ref (congrFun programs ref)] at ticked
    unfold tickedProgram advanceProgram TGNVertexProgram.tick
    rw [programs, computing]
    exact ticked
  rw [clocked] at advanced
  refine Eq.trans ?_ advanced
  refine (drain_tickMemory config ((state.tickComponents config).runAdmission
    config) ref).trans ?_
  show (state.tickComponents config).store.drain ref = _
  rw [tickComponents_eq config state ref attached, recordStats_store,
    drain_writebackVertex, drain_requestHidden]

theorem entersDrain_cycle : (state.cycle config).EntersDrain config ref := by
  have entered := drain_cycle_of_last state attached shared computing last
  constructor
  · exact attached
  · rw [entered]
    exact shared
  · rw [entered]
  · rw [entered]

/-- The first stage then holds the latched inputs, so only what was in the
second stage before the cycle can displace them. -/
theorem drainsOwn_cycle_iff :
    (state.cycle config).DrainsOwn ref ↔
      ((state.store.drain ref).unit.validBits 1 = true →
        PartialSumAccumulationUnit.addPairs (n := 1)
          (PartialSumAccumulationUnit.addPairs (n := 2)
            (state.store.drain ref).unit.stage2Regs) 0 =
          (state.cycle config).latchedSum ref) := by
  have entered := drain_cycle_of_last state attached shared computing last
  have own := reduce_latched (state.cycle config) ref
  constructor
  · intro drains
    have third := drains.third
    rw [entered] at third
    exact third
  · intro displaced
    constructor
    · rw [entered]
      exact displaced
    · intro _ _
      rw [entered] at own ⊢
      exact own

end Latching

end Entry

/-- The drain as a part of the aggregation. -/
theorem drain_eq_aggregation
    [Field F]
    {hardware : Hardware}
    {store : Store F}
    (ready : hardware.Ready store) :
    store.drain hardware.program =
      { psau := hardware.psau
        unit := (hardware.aggregation store).unit
        phase := (hardware.aggregation store).phase
        psauFlushCount := (hardware.aggregation store).psauFlushCount
        partialSumInputs := (hardware.aggregation store).partialSumInputs
        aggregatedMessage :=
          (hardware.aggregation store).aggregatedMessage } := by
  unfold Store.drain
  rw [ready.drives.psau]
  rfl

/-- A gathered vertex that drains its own inputs, although column 10 is in the
third stage. -/
theorem column_eq_of_drainsOwn
    [Field F]
    {state : RunState F M}
    {ref psau : Nat}
    {vertex : GatheredVertex F}
    {significant : F → Bool}
    (entry : state.store.drain ref =
      { psau := psau
        unit := vertex.unitAt significant 16
        phase := .genUpdatePsauDrain
        psauFlushCount := 0
        partialSumInputs := Aggregation.column vertex.products 30
        aggregatedMessage := vertex.rest.aggregatedMessage })
    (insignificant : significant 0 = false)
    (some10 : ((List.finRange 16).any fun vault =>
      significant (vertex.products vault 10)) = true)
    (own : state.DrainsOwn ref)
    (lane : Fin 16) :
    ∑ vault, Aggregation.column vertex.products 26 vault lane =
      ∑ vault, Aggregation.column vertex.products 30 vault lane := by
  have input := vertex.treeInputs_computing significant
    (show 13 < 16 by decide)
  have valid := GatheredVertex.anySignificant_column significant
    insignificant vertex.products 10
  have third : (vertex.unitAt significant 16).validBits 2 =
      (Aggregation.treeInputs significant vertex.products 13).2 := rfl
  have sum : PartialSumAccumulationUnit.addPairs (n := 1)
      (vertex.unitAt significant 16).stage3Regs 0 =
        PartialSumAccumulationUnit.reduce
          (Aggregation.treeInputs significant vertex.products 13).1 := rfl
  rw [input] at third sum
  have drains := own.third
  unfold latchedSum at drains
  rw [entry] at drains
  have same := congrFun (drains (third.trans (valid.trans some10))) lane
  simp only at same
  rwa [sum, PartialSumAccumulationUnit.reduce_apply] at same

/-! ## Sixteen vaults with a full vector of ones each -/

section FullVaults

open Hardware

/-- The vaults of `unitVaults`, with fifteen more ones in every buffer. -/
def fullVaults : RamulatorHbmSimulator ℚ (List (Nat × Nat)) :=
  { unitVaults with
    store :=
      { unitVaults.store with
        piccolos := fun ref =>
          { unitVaults.store.piccolos ref with
            db := (List.replicate 15 0x3f800000).foldl RingBuffer.push
              (unitVaults.store.piccolos ref).db } } }

theorem gathers_fullVaults :
    fullVaults.enter.Gathers numberedVaults fullVaults.runConfig none none 0
    where
  attached := rfl
  ready :=
    { drives := ⟨rfl, rfl, rfl, rfl⟩
      queues := fun _ => rfl
      stalls := fun _ => rfl }
  started := rfl
  idle := fun _ => ⟨fun _ => rfl, SystolicArray.cleared_loadWeights _ _⟩
  waiting := fun cycles early => absurd early (Nat.not_lt_zero cycles)
  complete := by decide +kernel

/-- The run of `fullVaults` up to the entry of the drain. -/
def fullVaultsEntry : RunState ℚ (List (Nat × Nat)) :=
  fullVaults.enter.afterCycles fullVaults.runConfig 17

theorem drain_fullVaultsEntry :
    fullVaultsEntry.store.drain 0 =
      { psau := 0
        unit := (gatheredVertex gathers_fullVaults).unitAt
          readsOne.isSignificant 16
        phase := .genUpdatePsauDrain
        psauFlushCount := 0
        partialSumInputs := Aggregation.column
          (gatheredVertex gathers_fullVaults).products 30
        aggregatedMessage :=
          (gatheredVertex gathers_fullVaults).rest.aggregatedMessage } := by
  have aggregated := drain_eq_aggregation
    (ready_afterCycles gathers_fullVaults 17)
  rw [show (17 : Nat) = 0 + 17 from rfl,
    aggregation_draining gathers_fullVaults] at aggregated
  exact aggregated

theorem entersDrain_fullVaults :
    fullVaultsEntry.EntersDrain fullVaults.runConfig 0 := by
  constructor
  · rfl
  · rw [drain_fullVaultsEntry]
    rfl
  · rw [drain_fullVaultsEntry]
  · rw [drain_fullVaultsEntry]

theorem fullVaults_leavesDrainWith_iff :
    fullVaultsEntry.LeavesDrainWith fullVaults.runConfig 0
        (fullVaultsEntry.latchedSum 0) ↔
      fullVaultsEntry.DrainsOwn 0 :=
  leavesDrainWith_latchedSum_iff entersDrain_fullVaults

theorem products_fullVaults (vault column : Fin 16) :
    (gatheredVertex gathers_fullVaults).products vault column = 1 := by
  rw [products_gatheredVertex]
  revert vault column
  decide +kernel

/-- Column 14 is latched, but column 10 is in the third stage. -/
theorem fullVaults_drains_other :
    fullVaultsEntry.EntersDrain fullVaults.runConfig 0 ∧
      ¬ fullVaultsEntry.LeavesDrainWith fullVaults.runConfig 0
        (fullVaultsEntry.latchedSum 0) := by
  refine ⟨entersDrain_fullVaults, ?_⟩
  intro leaves
  have own := drainsOwn_of_leavesDrainWith entersDrain_fullVaults leaves
  have some10 : ((List.finRange 16).any fun vault =>
      readsOne.isSignificant
        ((gatheredVertex gathers_fullVaults).products vault 10)) = true := by
    simp only [products_fullVaults]
    decide +kernel
  have same := column_eq_of_drainsOwn drain_fullVaultsEntry
    (by decide +kernel) some10 own 10
  revert same
  simp only [Aggregation.column, products_fullVaults]
  decide +kernel

end FullVaults

end RunState

end PimGraphs
