import PimGraphs.Compute.VertexResult

/-!
# The weights of the message transform

An evaluation stores the weights of its gates in the array it borrows and
leaves those of the last gate there.  From the second vertex on the arrays
therefore transform the gathered vectors with the input weights of the GRU.
-/

namespace PimGraphs

namespace GRUCell

variable {F : Type}

/-- The last gate's weights have been loaded. -/
def PastLastLoad : GRUPhase → Prop
  | .settleNewGateX => True
  | .drainNewGateX => True
  | .applyElementwise => True
  | .done => True
  | _ => False

/-- What an evaluation has stored in the array. -/
structure Stored
    (cell : GRUCell F)
    (weights : Matrix (Fin 16) (Fin 16) F) : Prop where
  weights : PastLastLoad cell.phase → weights = cell.wIn.toMatrix
  finished : cell.isDone = true → cell.phase = .done

theorem stored_start
    [Zero F]
    (cell : GRUCell F)
    (hPrev msg : Vec16 F)
    (weights : Matrix (Fin 16) (Fin 16) F) :
    Stored (cell.start hPrev msg) weights :=
  ⟨False.elim, fun finished => Bool.noConfusion finished⟩

/-- A drain changes no weights. -/
theorem stored_drainGate
    [Semiring F]
    {state : Borrowed F}
    {latch : GRUCell F → GRUCell F}
    {next : GRUPhase}
    (running : state.cell.isDone = false)
    (sameWeights : ∀ cell, (latch cell).wIn = cell.wIn)
    (sameFlag : ∀ cell, (latch cell).isDone = cell.isDone)
    (last : PastLastLoad state.cell.phase ↔ PastLastLoad next)
    (loaded : PastLastLoad next →
      state.sa.weights = state.cell.wIn.toMatrix) :
    Stored (drainGate state latch next).cell
      (drainGate state latch next).sa.weights := by
  unfold drainGate
  simp only
  split
  · refine ⟨?_, ?_⟩
    · simp only [SystolicArray.weights_tick, sameWeights]
      exact loaded
    · simp only [sameFlag, running]
      exact fun finished => Bool.noConfusion finished
  · refine ⟨?_, ?_⟩
    · simp only [SystolicArray.weights_tick, last]
      exact loaded
    · simp only [running]
      exact fun finished => Bool.noConfusion finished

section Evaluation

variable [Field F] (ops : FloatOps F) {state : Borrowed F}

/-- A tick keeps what is stored in step with the phase. -/
theorem Stored.tick (stored : Stored state.cell state.sa.weights) :
    Stored (GRUCell.tick ops state).cell
      (GRUCell.tick ops state).sa.weights := by
  cases running : state.cell.isDone with
  | true =>
      rw [GRUCell.tick, if_pos running]
      exact stored
  | false =>
      have past (phase : PastLastLoad state.cell.phase) :
          state.sa.weights = state.cell.wIn.toMatrix := stored.weights phase
      unfold GRUCell.tick
      rw [if_neg (Bool.eq_false_iff.mp running)]
      simp only
      split
      case h_3 phase =>
        refine stored_drainGate running (fun _ => rfl) (fun _ => rfl) ?_
          False.elim
        rw [phase]
        exact Iff.rfl
      case h_6 phase =>
        refine stored_drainGate running (fun _ => rfl) (fun _ => rfl) ?_
          False.elim
        rw [phase]
        exact Iff.rfl
      case h_9 phase =>
        refine stored_drainGate running (fun _ => rfl) (fun _ => rfl) ?_
          False.elim
        rw [phase]
        exact Iff.rfl
      case h_12 phase =>
        rw [phase] at past
        refine stored_drainGate running (fun _ => rfl) (fun _ => rfl) ?_ past
        rw [phase]
        exact Iff.rfl
      case h_10 => exact ⟨fun _ => rfl, fun finished =>
        Bool.noConfusion (running.symm.trans finished)⟩
      case h_11 phase =>
        rw [phase] at past
        exact ⟨past, fun finished =>
          Bool.noConfusion (running.symm.trans finished)⟩
      case h_13 phase =>
        rw [phase] at past
        exact ⟨past, fun _ => rfl⟩
      case h_14 phase =>
        exact ⟨past, fun _ => phase⟩
      case h_15 phase =>
        exact ⟨past, fun finished =>
          Bool.noConfusion (running.symm.trans finished)⟩
      all_goals exact ⟨False.elim, fun finished =>
        Bool.noConfusion (running.symm.trans finished)⟩

end Evaluation

end GRUCell

namespace VaultView

open GRUCell

variable {F : Type} [Field F]

/-- In the course of an evaluation the array holds what the cell has stored in
it; an array without a feeder is not borrowed. -/
def HoldsGateWeights
    (message : Matrix (Fin 16) (Fin 16) F)
    (vault : VaultView F) : Prop :=
  ∀ array, vault.array = some array →
    if vault.feeder.isSome then Stored vault.cell array.weights
    else array.weights = message

theorem HoldsGateWeights.tickGru
    {message : Matrix (Fin 16) (Fin 16) F}
    {vault : VaultView F}
    (holds : vault.HoldsGateWeights message)
    (ops : FloatOps F) :
    (vault.tickGru ops).HoldsGateWeights message := by
  obtain ⟨cell, array, feeder⟩ := vault
  cases array with
  | none => exact holds
  | some array =>
      cases feeder with
      | none => exact holds
      | some feeder =>
          have stored : Stored cell array.weights := holds array rfl
          intro after isAfter
          obtain rfl := Option.some.inj isAfter
          exact stored.tick ops

omit [Field F] in
/-- The cell of a vault that is done with its evaluation has stored the weights
of the last gate. -/
theorem HoldsGateWeights.weights_of_gruDone
    {message : Matrix (Fin 16) (Fin 16) F}
    {vault : VaultView F}
    (holds : vault.HoldsGateWeights message)
    (finished : vault.gruDone = true)
    {array : SystolicArray F}
    (hasArray : vault.array = some array) :
    array.weights =
      if vault.feeder.isSome then vault.cell.wIn.toMatrix else message := by
  have own := holds array hasArray
  obtain ⟨cell, _, feeder⟩ := vault
  subst hasArray
  cases feeder with
  | none => exact own
  | some feeder =>
      have stored : Stored cell array.weights := own
      have done : cell.phase = .done := stored.finished finished
      apply stored.weights
      rw [done]
      trivial

theorem parameters_tickGru (vault : VaultView F) (ops : FloatOps F) :
    (vault.tickGru ops).cell.parameters = vault.cell.parameters := by
  obtain ⟨cell, array, feeder⟩ := vault
  cases array with
  | none => rfl
  | some array =>
      cases feeder with
      | none => rfl
      | some feeder => exact parameters_tick ops ⟨cell, array, feeder⟩

end VaultView

namespace VertexSystem

open TGNVertexProgram GRUCell

variable {F : Type}

/-- The weights a vault's array holds, if it has one. -/
def weights (system : VertexSystem F) (vault : Fin 16) :
    Option (Matrix (Fin 16) (Fin 16) F) :=
  (system.program.view system.store vault).array.map SystolicArray.weights

/-- Every array holds its message weights. -/
def HoldsMessageWeights
    (wMsg : Fin 16 → Matrix (Fin 16) (Fin 16) F)
    (system : VertexSystem F) : Prop :=
  ∀ vault matrix, system.weights vault = some matrix → matrix = wMsg vault

/-- Every array that evaluations borrow holds the input weights, every other
one its message weights. -/
def HoldsInputWeights
    (wIn : Weights F)
    (wMsg : Fin 16 → Matrix (Fin 16) (Fin 16) F)
    (system : VertexSystem F) : Prop :=
  ∀ vault matrix, system.weights vault = some matrix →
    matrix =
      if (system.program.feeders vault).isSome then wIn.toMatrix
      else wMsg vault

/-- In the course of the evaluations. -/
def HoldsGateWeights
    (wMsg : Fin 16 → Matrix (Fin 16) (Fin 16) F)
    (system : VertexSystem F) : Prop :=
  ∀ vault, (system.program.view system.store vault).HoldsGateWeights
    (wMsg vault)

/-- What holds of the arrays' weights between two events. -/
structure Tracks
    (wIn : Weights F)
    (wMsg : Fin 16 → Matrix (Fin 16) (Fin 16) F)
    (system : VertexSystem F) : Prop where
  own : system.program.OwnVaults
  cells : ∀ vault, (system.program.gruCells vault).wIn = wIn
  resting : system.program.phase ≠ .applyUpdateGru →
    system.program.phase ≠ .writeback →
      if system.program.verticesDone = 0 then system.HoldsMessageWeights wMsg
      else system.HoldsInputWeights wIn wMsg
  updating : system.program.phase = .applyUpdateGru →
    system.HoldsGateWeights wMsg
  ending : system.program.phase = .writeback →
    system.HoldsInputWeights wIn wMsg

/-- The rest of the hardware stores no weights, and the program is started
when it is free. -/
def WeightsKept (system : VertexSystem F) : Event F → Prop
  | .start _ => system.Free
  | .environment store => ∀ vault,
      weights { system with store } vault = system.weights vault
  | _ => True

/-- Two states with the same weights, wiring and count of vertices. -/
structure SameWeights (before after : VertexSystem F) : Prop where
  arrays : after.program.systolicArrays = before.program.systolicArrays
  feeders : after.program.feeders = before.program.feeders
  cells : ∀ vault, (after.program.gruCells vault).parameters =
    (before.program.gruCells vault).parameters
  verticesDone : after.program.verticesDone = before.program.verticesDone
  weights : after.weights = before.weights

section Steps

variable {wIn : Weights F} {wMsg : Fin 16 → Matrix (Fin 16) (Fin 16) F}
  {system after : VertexSystem F}

theorem SameWeights.own
    (same : system.SameWeights after)
    (own : system.program.OwnVaults) :
    after.program.OwnVaults := by
  refine ⟨?_, ?_⟩
  · rw [same.arrays]
    exact own.arrays
  · rw [same.feeders]
    exact own.feeders

theorem SameWeights.inputWeights
    (same : system.SameWeights after)
    (tracks : system.Tracks wIn wMsg)
    (vault : Fin 16) :
    (after.program.gruCells vault).wIn = wIn :=
  (congrArg GRUParameters.wIn (same.cells vault)).trans (tracks.cells vault)

theorem weights_of_arrays
    (wiring : after.program.systolicArrays = system.program.systolicArrays)
    (arrays : after.store.arrays = system.store.arrays) :
    after.weights = system.weights := by
  funext vault
  simp only [weights, view, wiring, arrays]

/-- A step that keeps the weights outside the evaluation. -/
theorem Tracks.of_sameWeights
    (tracks : system.Tracks wIn wMsg)
    (same : system.SameWeights after)
    (notUpdating : system.program.phase ≠ .applyUpdateGru)
    (notLast : system.program.phase ≠ .writeback)
    (stillNotUpdating : after.program.phase ≠ .applyUpdateGru)
    (stillNotLast : after.program.phase ≠ .writeback) :
    after.Tracks wIn wMsg := by
  have resting := tracks.resting notUpdating notLast
  constructor
  · exact same.own tracks.own
  · exact same.inputWeights tracks
  · intro _ _
    simp only [HoldsMessageWeights, HoldsInputWeights, same.weights,
      same.feeders, same.verticesDone]
    exact resting
  · exact fun updating => absurd updating stillNotUpdating
  · exact fun ending => absurd ending stillNotLast

end Steps

/-! ## One event -/

section Events

variable [Field F] {wIn : Weights F}
  {wMsg : Fin 16 → Matrix (Fin 16) (Fin 16) F}
  {system : VertexSystem F} {ops : FloatOps F}
  (tracks : system.Tracks wIn wMsg)
include tracks

theorem Tracks.start
    (free : system.Free)
    (cfg : VertexProgramConfig) :
    (system.next ops (.start cfg)).Tracks wIn wMsg := by
  obtain ⟨arrays, -⟩ := startVertex_store system.program system.store cfg
  have same : system.SameWeights (system.next ops (.start cfg)) :=
    ⟨rfl, rfl, fun _ => rfl, rfl, weights_of_arrays rfl arrays⟩
  refine tracks.of_sameWeights same ?_ ?_ VertexProgramPhase.noConfusion
    VertexProgramPhase.noConfusion
  · rcases free with idle | done
    · simp [idle]
    · simp [done]
  · rcases free with idle | done
    · simp [idle]
    · simp [done]

theorem Tracks.deliver (payload : Vec16 F) :
    (system.next ops (.deliver payload)).Tracks wIn wMsg :=
  ⟨⟨tracks.own.arrays, tracks.own.feeders⟩, tracks.cells, tracks.resting,
    tracks.updating, tracks.ending⟩

theorem Tracks.environment
    {store : Store F}
    (kept : ∀ vault,
      weights { system with store } vault = system.weights vault) :
    (system.next ops (.environment store)).Tracks wIn wMsg := by
  have same : weights { system with store } = system.weights := funext kept
  constructor
  · exact tracks.own
  · exact tracks.cells
  · simp only [HoldsMessageWeights, HoldsInputWeights, next, same]
    exact tracks.resting
  · intro updating vault array hasArray
    have held : system.weights vault = some array.weights :=
      (kept vault).symm.trans
        (congrArg (Option.map SystolicArray.weights) hasArray)
    obtain ⟨before, wasArray, sameWeights⟩ := Option.map_eq_some_iff.mp held
    have stored := tracks.updating updating vault before wasArray
    rw [sameWeights] at stored
    simpa [next, view] using stored
  · simp only [HoldsInputWeights, next, same]
    exact tracks.ending

variable (saOutputs : Fin 16 → Vec16 F)

theorem Tracks.tick_gathering
    (gathering : system.program.phase = .genUpdateGather) :
    (system.next ops (.tick saOutputs)).Tracks wIn wMsg := by
  have ticked : system.program.tick ops system.store saOutputs =
      system.program.countCycle.tickGenUpdateGather ops system.store := by
    simp [TGNVertexProgram.tick, gathering]
  have arrays :
      (system.program.countCycle.tickGenUpdateGather ops
        system.store).2.1.arrays = system.store.arrays :=
    arrays_tickGenUpdateGather ops system.store
  rw [next_tick saOutputs ticked]
  revert arrays
  unfold tickGenUpdateGather
  simp only
  split
  · intro arrays
    exact tracks.of_sameWeights
      ⟨rfl, rfl, fun _ => rfl, rfl, weights_of_arrays rfl arrays⟩
      (by simp [gathering]) (by simp [gathering])
      VertexProgramPhase.noConfusion VertexProgramPhase.noConfusion
  · intro arrays
    exact tracks.of_sameWeights
      ⟨rfl, rfl, fun _ => rfl, rfl, weights_of_arrays rfl arrays⟩
      (by simp [gathering]) (by simp [gathering])
      (by simp [countCycle, gathering]) (by simp [countCycle, gathering])

theorem Tracks.tick_computing
    (computing : system.program.phase = .genUpdateCompute) :
    (system.next ops (.tick saOutputs)).Tracks wIn wMsg := by
  have own : system.program.countCycle.OwnVaults :=
    ⟨tracks.own.arrays, tracks.own.feeders⟩
  have ticked : system.program.tick ops system.store saOutputs =
      ((system.program.countCycle.tickGenUpdateCompute system.store
        saOutputs).1, (system.program.countCycle.tickGenUpdateCompute
          system.store saOutputs).2, []) := by
    simp [TGNVertexProgram.tick, computing]
  have views := view_tickGenUpdateCompute own system.store saOutputs
  have kept (vault : Fin 16) :
      ((system.program.view system.store vault).clock.array.map
        SystolicArray.weights) = system.weights vault := by
    simp only [weights, VaultView.clock]
    cases hasArray : (system.program.view system.store vault).array with
    | none => simp [hasArray]
    | some array =>
        cases hasFeeder : (system.program.view system.store vault).feeder with
        | none => simp [hasArray]
        | some feeder => simp
  rw [next_tick saOutputs ticked]
  revert views
  unfold tickGenUpdateCompute
  simp only
  split
  · intro views
    refine tracks.of_sameWeights ⟨rfl, rfl, fun _ => rfl, rfl, ?_⟩
      (by simp [computing]) (by simp [computing])
      VertexProgramPhase.noConfusion VertexProgramPhase.noConfusion
    funext vault
    exact (congrArg (fun seen : VaultView F =>
      seen.array.map SystolicArray.weights) (views vault)).trans (kept vault)
  · intro views
    refine tracks.of_sameWeights ⟨rfl, rfl, fun _ => rfl, rfl, ?_⟩
      (by simp [computing]) (by simp [computing])
      (by simp [countCycle, computing]) (by simp [countCycle, computing])
    funext vault
    exact (congrArg (fun seen : VaultView F =>
      seen.array.map SystolicArray.weights) (views vault)).trans (kept vault)

theorem Tracks.tick_draining
    (draining : system.program.phase = .genUpdatePsauDrain) :
    (system.next ops (.tick saOutputs)).Tracks wIn wMsg := by
  have ticked : system.program.tick ops system.store saOutputs =
      ((system.program.countCycle.tickPsauDrain system.store).1,
        (system.program.countCycle.tickPsauDrain system.store).2, []) := by
    simp [TGNVertexProgram.tick, draining]
  rw [next_tick saOutputs ticked]
  have notUpdating : system.program.phase ≠ .applyUpdateGru := by
    simp [draining]
  have notLast : system.program.phase ≠ .writeback := by simp [draining]
  unfold tickPsauDrain
  simp only
  split
  · exact tracks.of_sameWeights ⟨rfl, rfl, fun _ => rfl, rfl, rfl⟩
      notUpdating notLast VertexProgramPhase.noConfusion
      VertexProgramPhase.noConfusion
  · split
    · exact tracks.of_sameWeights ⟨rfl, rfl, fun _ => rfl, rfl, rfl⟩
        notUpdating notLast VertexProgramPhase.noConfusion
        VertexProgramPhase.noConfusion
    · exact tracks.of_sameWeights ⟨rfl, rfl, fun _ => rfl, rfl, rfl⟩
        notUpdating notLast notUpdating notLast

theorem Tracks.tick_loading
    (loading : system.program.phase = .applyUpdateLoadH) :
    (system.next ops (.tick saOutputs)).Tracks wIn wMsg := by
  have ticked : system.program.tick ops system.store saOutputs =
      (system.program.countCycle.tickLoadHiddenState, system.store, []) := by
    simp [TGNVertexProgram.tick, loading]
  have notUpdating : system.program.phase ≠ .applyUpdateGru := by
    simp [loading]
  have notLast : system.program.phase ≠ .writeback := by simp [loading]
  rw [next_tick saOutputs ticked]
  unfold tickLoadHiddenState
  simp only
  split
  case isTrue =>
    constructor
    · exact ⟨tracks.own.arrays, tracks.own.feeders⟩
    · exact tracks.cells
    · exact fun notUpdating => absurd rfl notUpdating
    · intro _ vault array hasArray
      have holds : system.weights vault = some array.weights :=
        congrArg (Option.map SystolicArray.weights) hasArray
      split
      case isTrue => exact stored_start _ _ _ _
      case isFalse unattached =>
        have feederless : ¬ (system.program.feeders vault).isSome := by
          simpa [view, countCycle] using unattached
        have resting := tracks.resting notUpdating notLast
        split at resting
        · exact resting vault _ holds
        · exact (resting vault _ holds).trans (if_neg feederless)
    · exact VertexProgramPhase.noConfusion
  case isFalse =>
    exact tracks.of_sameWeights ⟨rfl, rfl, fun _ => rfl, rfl, rfl⟩
      notUpdating notLast notUpdating notLast

theorem Tracks.tick_updating
    (updating : system.program.phase = .applyUpdateGru) :
    (system.next ops (.tick saOutputs)).Tracks wIn wMsg := by
  have own : system.program.countCycle.OwnVaults :=
    ⟨tracks.own.arrays, tracks.own.feeders⟩
  have ticked : system.program.tick ops system.store saOutputs =
      ((system.program.countCycle.tickGru ops system.store).1,
        (system.program.countCycle.tickGru ops system.store).2, []) := by
    simp [TGNVertexProgram.tick, updating]
  obtain ⟨cells, program, views⟩ := tickGru_spec ops own system.store
  have held (vault : Fin 16) :
      ((system.program.countCycle.view system.store vault).tickGru
        ops).HoldsGateWeights (wMsg vault) :=
    (tracks.updating updating vault).tickGru ops
  have cellsAfter (vault : Fin 16) :
      ((system.program.countCycle.view system.store vault).tickGru
        ops).cell.wIn = wIn :=
    (congrArg GRUParameters.wIn (VaultView.parameters_tickGru _ ops)).trans
      (tracks.cells vault)
  rw [next_tick saOutputs ticked]
  generalize system.program.countCycle.tickGru ops system.store = after at *
  obtain ⟨afterProgram, store⟩ := after
  simp only at program views
  split at program
  case isTrue finished =>
    subst program
    constructor
    · exact ⟨tracks.own.arrays, tracks.own.feeders⟩
    · intro vault
      exact (congrArg (fun view => view.cell.wIn) (views vault)).trans
        (cellsAfter vault)
    · exact fun _ notLast => absurd rfl notLast
    · exact VertexProgramPhase.noConfusion
    · intro _ vault matrix holds
      rw [weights, views, Option.map_eq_some_iff] at holds
      obtain ⟨array, hasArray, rfl⟩ := holds
      have stored :=
        (held vault).weights_of_gruDone (finished vault) hasArray
      rw [cellsAfter, ← views] at stored
      refine stored.trans (if_congr ?_ rfl rfl)
      simp [view]
  case isFalse =>
    subst program
    constructor
    · exact ⟨tracks.own.arrays, tracks.own.feeders⟩
    · intro vault
      exact (congrArg (fun view => view.cell.wIn) (views vault)).trans
        (cellsAfter vault)
    · exact fun notUpdating => absurd updating notUpdating
    · intro _ vault
      rw [views]
      exact held vault
    · exact fun last => by simp [countCycle, updating] at last

theorem Tracks.tick_writeback
    (last : system.program.phase = .writeback) :
    (system.next ops (.tick saOutputs)).Tracks wIn wMsg := by
  have ticked : system.program.tick ops system.store saOutputs =
      (system.program.countCycle.tickWriteback, system.store, []) := by
    simp [TGNVertexProgram.tick, last]
  rw [next_tick saOutputs ticked]
  constructor
  · exact ⟨tracks.own.arrays, tracks.own.feeders⟩
  · exact tracks.cells
  · intro _ _
    exact (if_neg (Nat.succ_ne_zero _)).mpr (tracks.ending last)
  · exact VertexProgramPhase.noConfusion
  · exact VertexProgramPhase.noConfusion

theorem Tracks.tick :
    (system.next ops (.tick saOutputs)).Tracks wIn wMsg := by
  have unchanged (free : system.program.tick ops system.store saOutputs =
      (system.program, system.store, [])) :
      (system.next ops (.tick saOutputs)).Tracks wIn wMsg := by
    rw [next_tick saOutputs free]
    exact ⟨tracks.own, tracks.cells, tracks.resting, tracks.updating,
      tracks.ending⟩
  cases phase : system.program.phase with
  | idle => exact unchanged (by simp [TGNVertexProgram.tick, phase])
  | done => exact unchanged (by simp [TGNVertexProgram.tick, phase])
  | genUpdateGather => exact tracks.tick_gathering saOutputs phase
  | genUpdateCompute => exact tracks.tick_computing saOutputs phase
  | genUpdatePsauDrain => exact tracks.tick_draining saOutputs phase
  | applyUpdateLoadH => exact tracks.tick_loading saOutputs phase
  | applyUpdateGru => exact tracks.tick_updating saOutputs phase
  | writeback => exact tracks.tick_writeback saOutputs phase

omit saOutputs in
theorem Tracks.next
    {event : Event F}
    (kept : system.WeightsKept event) :
    (system.next ops event).Tracks wIn wMsg := by
  cases event with
  | start cfg => exact tracks.start kept cfg
  | tick saOutputs => exact tracks.tick saOutputs
  | deliver payload => exact tracks.deliver payload
  | environment store => exact tracks.environment kept

end Events

/-! ## Whole runs -/

section Runs

variable {system : VertexSystem F} {wIn : Weights F}
  {wMsg : Fin 16 → Matrix (Fin 16) (Fin 16) F}

/-- While the arrays transform the gathered vectors they hold their message
weights. -/
def TransformsMessages
    (wMsg : Fin 16 → Matrix (Fin 16) (Fin 16) F)
    (system : VertexSystem F) : Prop :=
  system.program.phase = .genUpdateCompute → system.HoldsMessageWeights wMsg

/-- While the arrays transform the gathered vectors no vertex has been
finished, or every array that is borrowed has the input weights for message
weights. -/
def TransformsFirst
    (wIn : Weights F)
    (wMsg : Fin 16 → Matrix (Fin 16) (Fin 16) F)
    (system : VertexSystem F) : Prop :=
  system.program.phase = .genUpdateCompute →
    system.program.verticesDone = 0 ∨
      ∀ vault, (system.program.systolicArrays vault).isSome →
        (system.program.feeders vault).isSome → wMsg vault = wIn.toMatrix

theorem Tracks.transformsMessages_iff (tracks : system.Tracks wIn wMsg) :
    system.TransformsMessages wMsg ↔ system.TransformsFirst wIn wMsg := by
  apply forall_congr'
  intro computing
  have resting := tracks.resting (by simp [computing]) (by simp [computing])
  split at resting
  case isTrue first => exact ⟨fun _ => Or.inl first, fun _ => resting⟩
  case isFalse later =>
    constructor
    · intro message
      refine Or.inr ?_
      intro vault hasArray hasFeeder
      obtain ⟨ref, isRef⟩ := Option.isSome_iff_exists.mp hasArray
      have held : system.weights vault =
          some (system.store.arrays ref).weights := by
        simp [weights, view, isRef]
      rw [← message vault _ held, resting vault _ held, if_pos hasFeeder]
    · intro condition vault matrix held
      have same := condition.resolve_left later vault
      have input := resting vault matrix held
      split at input
      case isTrue hasFeeder =>
        rw [input, same ?_ hasFeeder]
        by_contra noArray
        rw [Option.not_isSome_iff_eq_none] at noArray
        simp [weights, view, noArray] at held
      case isFalse => exact input

variable [Field F] (ops : FloatOps F)

/-- A property of every state of a run. -/
def Throughout
    (holds : VertexSystem F → Prop)
    (system : VertexSystem F)
    (events : List (Event F)) : Prop :=
  Run.Always (next ops) holds system events

/-- Nothing but the program stores weights in a run, and every vertex is
started when the program is free. -/
def RunsKeepingWeights
    (system : VertexSystem F)
    (events : List (Event F)) : Prop :=
  Run.Along (next ops) WeightsKept system events

variable {ops}

theorem RunsAlone.keepingWeights
    {events : List (Event F)}
    (alone : system.RunsAlone ops events) :
    system.RunsKeepingWeights ops events := by
  intro before event isPrefix
  have permitted := alone before event isPrefix
  cases event with
  | start cfg => exact permitted
  | tick saOutputs => trivial
  | deliver payload => trivial
  | environment store =>
      intro vault
      exact congrArg (fun seen : VaultView F =>
        seen.array.map SystolicArray.weights) (permitted vault)

theorem Throughout.last
    {holds : VertexSystem F → Prop}
    {events : List (Event F)}
    (always : system.Throughout ops holds events) :
    holds (system.run ops events) :=
  always events (List.prefix_refl events)

/-- The invariant holds in every state of a run. -/
theorem Tracks.throughout
    (tracks : system.Tracks wIn wMsg)
    {events : List (Event F)}
    (kept : system.RunsKeepingWeights ops events) :
    system.Throughout ops (Tracks wIn wMsg) events :=
  Run.Along.always (fun _ _ tracks kept => tracks.next kept) tracks kept

end Runs

section Built

variable [Field F] (ops : FloatOps F) (piccolos : Fin 16 → Option Nat)
  (psau : Nat) {arrays feeders : Fin 16 → Option Nat}
  (wR wZ wIn wHn : Weights F) (bR bZ bIn bHn : Vec16 F) {store : Store F}
  {wMsg : Fin 16 → Matrix (Fin 16) (Fin 16) F}

theorem tracks_built
    (own : (built piccolos psau arrays feeders wR wZ wIn wHn bR bZ bIn bHn
      store).program.OwnVaults)
    (loaded : (built piccolos psau arrays feeders wR wZ wIn wHn bR bZ bIn bHn
      store).HoldsMessageWeights wMsg) :
    (built piccolos psau arrays feeders wR wZ wIn wHn bR bZ bIn bHn
      store).Tracks wIn wMsg := by
  constructor
  · exact own
  · exact fun _ => rfl
  · exact fun _ _ => loaded
  · exact VertexProgramPhase.noConfusion
  · exact VertexProgramPhase.noConfusion

/-- Over a run the arrays transform the messages of every vertex with the
message weights exactly when only the first vertex gets as far, or the input
weights are the message weights of every array that is borrowed. -/
theorem transformsMessages_iff_transformsFirst
    (own : (built piccolos psau arrays feeders wR wZ wIn wHn bR bZ bIn bHn
      store).program.OwnVaults)
    (loaded : (built piccolos psau arrays feeders wR wZ wIn wHn bR bZ bIn bHn
      store).HoldsMessageWeights wMsg)
    (events : List (Event F))
    (kept : (built piccolos psau arrays feeders wR wZ wIn wHn bR bZ bIn bHn
      store).RunsKeepingWeights ops events) :
    (built piccolos psau arrays feeders wR wZ wIn wHn bR bZ bIn bHn
        store).Throughout ops (TransformsMessages wMsg) events ↔
      (built piccolos psau arrays feeders wR wZ wIn wHn bR bZ bIn bHn
        store).Throughout ops (TransformsFirst wIn wMsg) events := by
  have tracks := (tracks_built piccolos psau wR wZ wIn wHn bR bZ bIn bHn own
    loaded).throughout kept
  apply forall₂_congr
  intro before isPrefix
  exact (tracks before isPrefix).transformsMessages_iff

end Built

/-! ## A second vertex -/

section Witness

theorem RunsKeepingWeights.nextVertex
    {ops : FloatOps ℚ}
    {system : VertexSystem ℚ}
    {events : List (Event ℚ)}
    (kept : system.RunsKeepingWeights ops events)
    (done : (system.run ops events).program.phase = .done) :
    system.RunsKeepingWeights ops (events ++ [.start {}, .tick 0]) := by
  refine Run.along_append.mpr ⟨kept, ?_⟩
  exact Run.along_cons.mpr
    ⟨Or.inr done, Run.along_cons.mpr ⟨trivial, Run.along_nil⟩⟩

theorem not_transformsMessages
    {system : VertexSystem ℚ}
    (computing : system.program.phase = .genUpdateCompute)
    (stored : (system.weights 0).map (fun w => w 0 0) = some 1) :
    ¬ system.TransformsMessages 0 := by
  intro transforms
  obtain ⟨matrix, isMatrix, entry⟩ := Option.map_eq_some_iff.mp stored
  rw [transforms computing 0 matrix isMatrix] at entry
  exact zero_ne_one entry

/-- A whole vertex and the gathering of the next. -/
def secondVertex : List (Event ℚ) :=
  wholeVertex ++ [.start {}, .tick 0]

/-- The second vertex transforms its message with the input weights. -/
theorem weights_secondVertex :
    (numbered.run .atZero secondVertex).program.phase = .genUpdateCompute ∧
      ((numbered.run .atZero secondVertex).weights 0).map (fun w => w 0 0) =
        some 1 := by
  decide +kernel

theorem own_numbered : numbered.program.OwnVaults := by
  constructor
  · intro vault other ref isRef isOther
    exact Fin.val_injective (Option.some.inj (isRef.trans isOther.symm))
  · intro vault other ref isRef isOther
    exact Fin.val_injective (Option.some.inj (isRef.trans isOther.symm))

theorem loaded_numbered : numbered.HoldsMessageWeights 0 := by
  rintro vault _ ⟨⟩
  rfl

theorem runsKeepingWeights_secondVertex :
    numbered.RunsKeepingWeights .atZero secondVertex := by
  have kept := runsAlone_wholeVertex.keepingWeights
  exact kept.nextVertex done_wholeVertex

/-- The second vertex does not find the message weights. -/
theorem secondVertex_not_transformsMessages :
    numbered.program.OwnVaults ∧ numbered.HoldsMessageWeights 0 ∧
      numbered.RunsKeepingWeights .atZero secondVertex ∧
      ¬ numbered.Throughout .atZero (TransformsMessages 0) secondVertex := by
  refine ⟨own_numbered, loaded_numbered, runsKeepingWeights_secondVertex, ?_⟩
  intro always
  obtain ⟨computing, stored⟩ := weights_secondVertex
  exact not_transformsMessages computing stored always.last

theorem secondVertex_transformsMessages_iff :
    numbered.Throughout .atZero (TransformsMessages 0) secondVertex ↔
      numbered.Throughout .atZero
        (TransformsFirst GRUCell.identityWeights 0) secondVertex := by
  have own := own_numbered
  have loaded := loaded_numbered
  have kept := runsKeepingWeights_secondVertex
  unfold numbered allAttached at own loaded kept ⊢
  exact transformsMessages_iff_transformsFirst .atZero
    (fun vault => some vault.val) 0 GRUCell.identityWeights
    GRUCell.identityWeights GRUCell.identityWeights GRUCell.identityWeights
    0 0 0 0 own loaded secondVertex kept

end Witness

end VertexSystem

end PimGraphs
