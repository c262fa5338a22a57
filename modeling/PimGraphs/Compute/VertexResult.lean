import PimGraphs.Compute.GruResult
import PimGraphs.Compute.VertexRun

/-!
# The result of a vertex

The sixteen cells of a program hold the same weights and run in step, each on
an array and a feeder of its own.  Every gate of an evaluation loads its own
weights, which clears the latches of the array, and starts on an empty feeder,
so nothing an earlier vertex left behind is seen: all cells compute the vector
a single cell computes on new hardware, and so does their average.
-/

namespace PimGraphs

/-! ## The parameters of a cell -/

/-- The weights and biases of a cell. -/
structure GRUParameters (F : Type) where
  wR : Weights F
  wZ : Weights F
  wIn : Weights F
  wHn : Weights F
  bR : Vec16 F
  bZ : Vec16 F
  bIn : Vec16 F
  bHn : Vec16 F

namespace GRUCell

variable {F : Type}

/-- The parameters a cell holds. -/
def parameters (cell : GRUCell F) : GRUParameters F where
  wR := cell.wR
  wZ := cell.wZ
  wIn := cell.wIn
  wHn := cell.wHn
  bR := cell.bR
  bZ := cell.bZ
  bIn := cell.bIn
  bHn := cell.bHn

@[simp] theorem parameters_start
    [Zero F]
    (cell : GRUCell F)
    (hPrev msg : Vec16 F) :
    (cell.start hPrev msg).parameters = cell.parameters := rfl

section Tick

variable [Zero F] [Add F] [Mul F]

theorem parameters_drainGate
    (state : Borrowed F)
    (latch : GRUCell F → GRUCell F)
    (next : GRUPhase)
    (keeps : ∀ cell, (latch cell).parameters = cell.parameters) :
    (drainGate state latch next).cell.parameters = state.cell.parameters := by
  unfold drainGate
  simp only
  split
  · exact keeps _
  · rfl

/-- A tick keeps the weights and biases. -/
theorem parameters_tick
    [One F]
    [Sub F]
    (ops : FloatOps F)
    (state : Borrowed F) :
    (tick ops state).cell.parameters = state.cell.parameters := by
  unfold tick
  split
  · rfl
  · simp only
    split
    case h_3 => exact parameters_drainGate _ _ _ fun _ => rfl
    case h_6 => exact parameters_drainGate _ _ _ fun _ => rfl
    case h_9 => exact parameters_drainGate _ _ _ fun _ => rfl
    case h_12 => exact parameters_drainGate _ _ _ fun _ => rfl
    all_goals rfl

theorem parameters_iterate
    [One F]
    [Sub F]
    (ops : FloatOps F)
    (state : Borrowed F)
    (ticks : Nat) :
    ((tick ops)^[ticks] state).cell.parameters = state.cell.parameters := by
  induction ticks with
  | zero => rfl
  | succ ticks inductionHypothesis =>
      rw [Function.iterate_succ_apply', parameters_tick, inductionHypothesis]

end Tick

/-- What an evaluation computes depends on the weights and biases only. -/
theorem result_congr
    [Field F]
    (ops : FloatOps F)
    {cell other : GRUCell F}
    (same : cell.parameters = other.parameters)
    (hPrev msg : Vec16 F) :
    result ops cell hPrev msg = result ops other hPrev msg := by
  injection same with wR wZ wIn wHn bR bZ bIn bHn
  unfold result equations
  rw [wR, wZ, wIn, wHn, bR, bZ, bIn, bHn]

end GRUCell

/-! ## The average -/

namespace TGNVertexProgram

variable {F : Type}

/-- The average of sixteen equal vectors is the vector. -/
theorem averageHidden_of_equal
    [Field F]
    [CharZero F]
    {cells : Fin 16 → GRUCell F}
    {vec : Vec16 F}
    (equal : ∀ vault, (cells vault).hNew = vec) :
    averageHidden cells = vec := by
  ext lane
  rw [averageHidden_apply]
  simp only [equal, Finset.sum_const, Finset.card_univ, Fintype.card_fin,
    nsmul_eq_mul]
  exact mul_div_cancel₀ _ (Nat.cast_ne_zero.mpr (by decide))

end TGNVertexProgram

namespace VaultView

variable {F : Type}

/-- A vault with its array and feeder, as its cell borrows them. -/
def lent (state : GRUCell.Borrowed F) : VaultView F :=
  ⟨state.cell, some state.sa, some state.feeder⟩

@[simp] theorem tickGru_lent
    [Zero F]
    [One F]
    [Add F]
    [Sub F]
    [Mul F]
    (ops : FloatOps F)
    (state : GRUCell.Borrowed F) :
    (lent state).tickGru ops = lent (GRUCell.tick ops state) := rfl

@[simp] theorem gruDone_lent (state : GRUCell.Borrowed F) :
    (lent state).gruDone = state.cell.isDone := rfl

end VaultView

namespace VertexSystem

open TGNVertexProgram

variable {F : Type} [Field F] (ops : FloatOps F) (cell : GRUCell F)

/-- All vaults have made the same number of ticks of an evaluation of the
delivered hidden state and the aggregated message. -/
structure InStep (system : VertexSystem F) (ticks : Nat) : Prop where
  early : ticks < 137
  vaults : ∀ vault, ∃ (own : GRUCell F) (sa : SystolicArray F)
    (feeder : ArrayFeeder F),
    own.parameters = cell.parameters ∧
    (∀ row, feeder.delayLines row = []) ∧
    system.program.view system.store vault =
      .lent ((GRUCell.tick ops)^[ticks]
        ⟨own.start system.delivered system.program.aggregatedMessage, sa,
          feeder⟩)

/-- What holds of a program between two events. -/
structure Sound (system : VertexSystem F) : Prop where
  own : system.program.OwnVaults
  attached : ∀ vault, (system.program.systolicArrays vault).isSome ∧
    (system.program.feeders vault).isSome
  parameters : ∀ vault,
    (system.program.gruCells vault).parameters = cell.parameters
  dry : system.program.phase ≠ .genUpdateCompute →
    system.program.phase ≠ .applyUpdateGru →
      system.program.LinesWithin system.store 16
  computing : system.program.phase = .genUpdateCompute →
    system.program.LinesWithin system.store system.program.computeCycles
  loading : system.program.phase = .applyUpdateLoadH →
    system.program.hLoadDone = true →
      system.program.prevHiddenState = system.delivered
  updating : system.program.phase = .applyUpdateGru →
    ∃ ticks, system.InStep ops cell ticks
  finished : system.program.phase = .writeback ∨
      system.program.phase = .done →
    system.program.newHiddenState = GRUCell.result ops cell system.delivered
      system.program.aggregatedMessage

/-- A program that neither computes, loads, updates nor has finished is sound
when its feeders run dry. -/
theorem sound_of_resting
    {system : VertexSystem F}
    (own : system.program.OwnVaults)
    (attached : ∀ vault, (system.program.systolicArrays vault).isSome ∧
      (system.program.feeders vault).isSome)
    (parameters : ∀ vault,
      (system.program.gruCells vault).parameters = cell.parameters)
    (dry : system.program.LinesWithin system.store 16)
    (resting : system.program.phase = .idle ∨
      system.program.phase = .genUpdateGather ∨
        system.program.phase = .genUpdatePsauDrain) :
    system.Sound ops cell := by
  have busy (phase : VertexProgramPhase)
      (notIdle : phase ≠ .idle)
      (notGathering : phase ≠ .genUpdateGather)
      (notDraining : phase ≠ .genUpdatePsauDrain) :
      system.program.phase ≠ phase := by
    rintro rfl
    exact resting.elim notIdle (Or.rec notGathering notDraining)
  constructor
  · exact own
  · exact attached
  · exact parameters
  · exact fun _ _ => dry
  · exact fun computing => absurd computing (busy _ nofun nofun nofun)
  · exact fun loading => absurd loading (busy _ nofun nofun nofun)
  · exact fun updating => absurd updating (busy _ nofun nofun nofun)
  · rintro (writeback | done)
    · exact absurd writeback (busy _ nofun nofun nofun)
    · exact absurd done (busy _ nofun nofun nofun)

/-- The program alone uses its vaults, and is started when it is free. -/
def Alone (system : VertexSystem F) : Event F → Prop
  | .start _ => system.Free
  | .environment store => ∀ vault,
      system.program.view store vault = system.program.view system.store vault
  | _ => True

/-- The system after some events. -/
def run (system : VertexSystem F) (events : List (Event F)) :
    VertexSystem F :=
  Run.after (next ops) system events

/-- Every event of a run leaves the program alone with its vaults. -/
def RunsAlone (system : VertexSystem F) (events : List (Event F)) : Prop :=
  Run.Along (next ops) Alone system events

section Steps

variable {ops cell} {system : VertexSystem F}
  (sound : system.Sound ops cell)
include sound

theorem Sound.start
    (free : system.Free)
    (cfg : VertexProgramConfig) :
    (system.next ops (.start cfg)).Sound ops cell := by
  obtain ⟨-, feeders⟩ := startVertex_store system.program system.store cfg
  have dry : system.program.LinesWithin system.store 16 := by
    rcases free with idle | done
    · exact sound.dry (by simp [idle]) (by simp [idle])
    · exact sound.dry (by simp [done]) (by simp [done])
  apply sound_of_resting
  · exact ⟨sound.own.arrays, sound.own.feeders⟩
  · exact sound.attached
  · exact sound.parameters
  · intro vault lengths isLengths
    apply dry vault lengths
    simp only [next, lineLengths, feeders] at isLengths
    exact isLengths
  · exact Or.inr (Or.inl rfl)

theorem Sound.deliver (payload : Vec16 F) :
    (system.next ops (.deliver payload)).Sound ops cell := by
  constructor
  · exact ⟨sound.own.arrays, sound.own.feeders⟩
  · exact sound.attached
  · exact sound.parameters
  · exact sound.dry
  · exact sound.computing
  · intro loading _
    exact (if_pos loading).symm
  · intro updating
    have notLoading : system.program.phase ≠ .applyUpdateLoadH := by
      rw [show system.program.phase = .applyUpdateGru from updating]
      exact VertexProgramPhase.noConfusion
    obtain ⟨ticks, inStep⟩ := sound.updating updating
    refine ⟨ticks, inStep.early, ?_⟩
    simp only [next, if_neg notLoading]
    exact inStep.vaults
  · intro finished
    have notLoading : system.program.phase ≠ .applyUpdateLoadH := by
      rcases finished with writeback | done
      · rw [show system.program.phase = .writeback from writeback]
        exact VertexProgramPhase.noConfusion
      · rw [show system.program.phase = .done from done]
        exact VertexProgramPhase.noConfusion
    simp only [next, if_neg notLoading]
    exact sound.finished finished

theorem Sound.environment
    {store : Store F}
    (same : ∀ vault, system.program.view store vault =
      system.program.view system.store vault) :
    (system.next ops (.environment store)).Sound ops cell := by
  have sameLengths (ticks : Nat)
      (within : system.program.LinesWithin system.store ticks) :
      system.program.LinesWithin store ticks := by
    intro vault lengths isLengths
    rw [lineLengths_eq, same, ← lineLengths_eq] at isLengths
    exact within vault lengths isLengths
  constructor
  · exact sound.own
  · exact sound.attached
  · exact sound.parameters
  · intro notComputing notUpdating
    exact sameLengths 16 (sound.dry notComputing notUpdating)
  · intro computing
    exact sameLengths _ (sound.computing computing)
  · exact sound.loading
  · intro updating
    obtain ⟨ticks, inStep⟩ := sound.updating updating
    refine ⟨ticks, inStep.early, ?_⟩
    intro vault
    obtain ⟨own, sa, feeder, parameters, empty, seen⟩ := inStep.vaults vault
    exact ⟨own, sa, feeder, parameters, empty, (same vault).trans seen⟩
  · exact sound.finished

end Steps

/-! ## One tick -/

section Tick

variable {ops cell} {system : VertexSystem F}

theorem next_tick
    (saOutputs : Fin 16 → Vec16 F)
    {after : TGNVertexProgram F × Store F × List MemoryBurst}
    (ticked : system.program.tick ops system.store saOutputs = after) :
    system.next ops (.tick saOutputs) =
      ⟨after.1, after.2.1, system.delivered⟩ := by
  rw [← ticked]
  rfl

variable (sound : system.Sound ops cell) (saOutputs : Fin 16 → Vec16 F)
include sound

theorem Sound.tick_of_free (free : system.Free) :
    (system.next ops (.tick saOutputs)).Sound ops cell := by
  have ticked : system.program.tick ops system.store saOutputs =
      (system.program, system.store, []) := by
    rcases free with idle | done
    · simp [TGNVertexProgram.tick, idle]
    · simp [TGNVertexProgram.tick, done]
  rw [next_tick saOutputs ticked]
  exact sound

theorem Sound.tick_gathering
    (gathering : system.program.phase = .genUpdateGather) :
    (system.next ops (.tick saOutputs)).Sound ops cell := by
  have dry := sound.dry (by simp [gathering]) (by simp [gathering])
  have own : system.program.countCycle.OwnVaults :=
    ⟨sound.own.arrays, sound.own.feeders⟩
  have ticked : system.program.tick ops system.store saOutputs =
      (system.program.countCycle.tickGenUpdateGather ops system.store) := by
    simp [TGNVertexProgram.tick, gathering]
  rw [next_tick saOutputs ticked]
  rcases tickGenUpdateGather_cases ops own dry with
    ⟨program, lines⟩ | ⟨program, lines⟩
  · rw [program]
    constructor
    · exact ⟨own.arrays, own.feeders⟩
    · exact sound.attached
    · exact sound.parameters
    · exact fun _ _ => lines
    · exact fun computing => by simp [countCycle, gathering] at computing
    · exact fun loading => by simp [countCycle, gathering] at loading
    · exact fun updating => by simp [countCycle, gathering] at updating
    · exact fun finished => by simp [countCycle, gathering] at finished
  · rw [program]
    constructor
    · exact ⟨own.arrays, own.feeders⟩
    · exact sound.attached
    · exact sound.parameters
    · exact fun notComputing => absurd rfl notComputing
    · exact fun _ => lines
    · exact VertexProgramPhase.noConfusion
    · exact VertexProgramPhase.noConfusion
    · rintro (writeback | done)
      · exact VertexProgramPhase.noConfusion writeback
      · exact VertexProgramPhase.noConfusion done

/-- A clock takes a value from every line. -/
theorem Sound.linesWithin_clock
    {program : TGNVertexProgram F}
    {store : Store F}
    {ticks : Nat}
    (within : system.program.LinesWithin system.store ticks)
    (clocked : ∀ vault, program.view store vault =
      (system.program.view system.store vault).clock) :
    program.LinesWithin store (ticks + 1) := by
  intro vault lengths isLengths row
  obtain ⟨hasArray, hasFeeder⟩ := sound.attached vault
  obtain ⟨array, isArray⟩ := Option.isSome_iff_exists.mp hasArray
  obtain ⟨feeder, isFeeder⟩ := Option.isSome_iff_exists.mp hasFeeder
  have before : ((system.store.feeders feeder).delayLines row).length ≤
      row.val + 1 - ticks :=
    within vault _ (by rw [lineLengths, isFeeder]; rfl) row
  rw [lineLengths_eq, clocked] at isLengths
  simp only [view, VaultView.clock, isArray, isFeeder, Option.map_some,
    ArrayFeeder.getNextActivations, List.length_tail, Option.some.injEq]
    at isLengths
  rw [← isLengths]
  simp only
  omega

theorem Sound.tick_computing
    (computing : system.program.phase = .genUpdateCompute) :
    (system.next ops (.tick saOutputs)).Sound ops cell := by
  have own : system.program.countCycle.OwnVaults :=
    ⟨sound.own.arrays, sound.own.feeders⟩
  have ticked : system.program.tick ops system.store saOutputs =
      ((system.program.countCycle.tickGenUpdateCompute system.store
        saOutputs).1, (system.program.countCycle.tickGenUpdateCompute
          system.store saOutputs).2, []) := by
    simp [TGNVertexProgram.tick, computing]
  have lines := sound.linesWithin_clock (sound.computing computing)
    (view_tickGenUpdateCompute own system.store saOutputs)
  rw [next_tick saOutputs ticked]
  revert lines
  unfold tickGenUpdateCompute
  simp only
  split
  case isTrue last =>
    intro lines
    apply sound_of_resting
    · exact ⟨own.arrays, own.feeders⟩
    · exact sound.attached
    · exact sound.parameters
    · intro vault lengths isLengths row
      have within := lines vault lengths isLengths row
      have counted : 16 ≤ system.program.computeCycles + 1 := last
      omega
    · exact Or.inr (Or.inr rfl)
  case isFalse early =>
    intro lines
    constructor
    · exact ⟨own.arrays, own.feeders⟩
    · exact sound.attached
    · exact sound.parameters
    · exact fun notComputing => absurd computing notComputing
    · exact fun _ => lines
    · exact fun loading => by simp [countCycle, computing] at loading
    · exact fun updating => by simp [countCycle, computing] at updating
    · exact fun finished => by simp [countCycle, computing] at finished

theorem Sound.tick_draining
    (draining : system.program.phase = .genUpdatePsauDrain) :
    (system.next ops (.tick saOutputs)).Sound ops cell := by
  have dry := sound.dry (by simp [draining]) (by simp [draining])
  have ticked : system.program.tick ops system.store saOutputs =
      ((system.program.countCycle.tickPsauDrain system.store).1,
        (system.program.countCycle.tickPsauDrain system.store).2, []) := by
    simp [TGNVertexProgram.tick, draining]
  rw [next_tick saOutputs ticked]
  -- a message accepted finds no hidden state delivered for it yet
  have accepts (program : TGNVertexProgram F) (message : Vec16 F)
      (store : Store F)
      (arrays : program.systolicArrays = system.program.systolicArrays)
      (feeders : program.feeders = system.program.feeders)
      (cells : program.gruCells = system.program.gruCells)
      (lines : store.feeders = system.store.feeders) :
      Sound ops cell
        ⟨program.acceptMessage message, store, system.delivered⟩ := by
    constructor
    · refine ⟨?_, ?_⟩
      · simp only [acceptMessage, arrays]
        exact sound.own.arrays
      · simp only [acceptMessage, feeders]
        exact sound.own.feeders
    · simp only [acceptMessage, arrays, feeders]
      exact sound.attached
    · simp only [acceptMessage, cells]
      exact sound.parameters
    · intro _ _ vault lengths isLengths
      apply dry vault lengths
      simp only [acceptMessage, lineLengths, feeders, lines] at isLengths
      exact isLengths
    · exact VertexProgramPhase.noConfusion
    · exact fun _ delivered => Bool.noConfusion delivered
    · exact VertexProgramPhase.noConfusion
    · rintro (writeback | done)
      · exact VertexProgramPhase.noConfusion writeback
      · exact VertexProgramPhase.noConfusion done
  unfold tickPsauDrain
  simp only
  split
  · exact accepts _ _ _ rfl rfl rfl rfl
  · split
    · exact accepts _ _ _ rfl rfl rfl rfl
    · apply sound_of_resting
      · exact ⟨sound.own.arrays, sound.own.feeders⟩
      · exact sound.attached
      · exact sound.parameters
      · exact dry
      · exact Or.inr (Or.inr draining)

/-- The evaluation starts with the delivered hidden state. -/
theorem Sound.tick_loading
    (loading : system.program.phase = .applyUpdateLoadH) :
    (system.next ops (.tick saOutputs)).Sound ops cell := by
  have dry := sound.dry (by simp [loading]) (by simp [loading])
  have ticked : system.program.tick ops system.store saOutputs =
      (system.program.countCycle.tickLoadHiddenState, system.store, []) := by
    simp [TGNVertexProgram.tick, loading]
  rw [next_tick saOutputs ticked]
  unfold tickLoadHiddenState
  simp only
  split
  case isTrue loaded =>
    have delivered := sound.loading loading loaded
    constructor
    · exact ⟨sound.own.arrays, sound.own.feeders⟩
    · exact sound.attached
    · exact sound.parameters
    · exact fun _ notUpdating => absurd rfl notUpdating
    · exact VertexProgramPhase.noConfusion
    · exact VertexProgramPhase.noConfusion
    · intro _
      refine ⟨0, by decide, ?_⟩
      intro vault
      obtain ⟨hasArray, hasFeeder⟩ := sound.attached vault
      obtain ⟨array, isArray⟩ := Option.isSome_iff_exists.mp hasArray
      obtain ⟨feeder, isFeeder⟩ := Option.isSome_iff_exists.mp hasFeeder
      refine ⟨system.program.gruCells vault, system.store.arrays array,
        system.store.feeders feeder, sound.parameters vault, ?_, ?_⟩
      · have seen : (system.program.view system.store vault).feeder =
            some (system.store.feeders feeder) := by
          rw [view, isFeeder]
          rfl
        exact dry.dry seen
      · rw [← delivered]
        simp only [view, countCycle, isArray, isFeeder]
        rfl
    · rintro (writeback | done)
      · exact VertexProgramPhase.noConfusion writeback
      · exact VertexProgramPhase.noConfusion done
  case isFalse waiting =>
    constructor
    · exact ⟨sound.own.arrays, sound.own.feeders⟩
    · exact sound.attached
    · exact sound.parameters
    · exact fun _ _ => dry
    · exact fun computing => by simp [countCycle, loading] at computing
    · exact fun _ loaded => absurd loaded waiting
    · exact fun updating => by simp [countCycle, loading] at updating
    · exact fun finished => by simp [countCycle, loading] at finished

theorem Sound.tick_writeback
    (last : system.program.phase = .writeback) :
    (system.next ops (.tick saOutputs)).Sound ops cell := by
  have ticked : system.program.tick ops system.store saOutputs =
      (system.program.countCycle.tickWriteback, system.store, []) := by
    simp [TGNVertexProgram.tick, last]
  rw [next_tick saOutputs ticked]
  constructor
  · exact ⟨sound.own.arrays, sound.own.feeders⟩
  · exact sound.attached
  · exact sound.parameters
  · exact fun _ _ => sound.dry (by simp [last]) (by simp [last])
  · exact VertexProgramPhase.noConfusion
  · exact VertexProgramPhase.noConfusion
  · exact VertexProgramPhase.noConfusion
  · exact fun _ => sound.finished (Or.inl last)

variable [CharZero F]

omit [CharZero F] in
/-- A tick keeps the evaluations in step, and the last one ends the phase. -/
theorem Sound.next_updating
    (updating : system.program.phase = .applyUpdateGru)
    {ticks : Nat}
    (inStep : system.InStep ops cell ticks) :
    ∃ (cells own : Fin 16 → GRUCell F) (sa : Fin 16 → SystolicArray F)
      (feeder : Fin 16 → ArrayFeeder F),
      (system.next ops (.tick saOutputs)).program =
        (if ticks + 1 < 137 then
          { system.program.countCycle with
            gruCycles := system.program.gruCycles + 1
            gruCells := cells }
        else
          { system.program.countCycle with
            gruCycles := system.program.gruCycles + 1
            gruCells := cells
            newHiddenState := averageHidden cells
            phase := .writeback }) ∧
      ∀ vault, (own vault).parameters = cell.parameters ∧
        (∀ row, (feeder vault).delayLines row = []) ∧
        (system.next ops (.tick saOutputs)).program.view
            (system.next ops (.tick saOutputs)).store vault =
          .lent ((GRUCell.tick ops)^[ticks + 1]
            ⟨(own vault).start system.delivered
              system.program.aggregatedMessage, sa vault, feeder vault⟩) := by
  choose own sa feeder sameParameters empty seen using inStep.vaults
  have ownVaults : system.program.countCycle.OwnVaults :=
    ⟨sound.own.arrays, sound.own.feeders⟩
  obtain ⟨cells, program, views⟩ := tickGru_spec ops ownVaults system.store
  have ticked : system.program.tick ops system.store saOutputs =
      ((system.program.countCycle.tickGru ops system.store).1,
        (system.program.countCycle.tickGru ops system.store).2, []) := by
    simp [TGNVertexProgram.tick, updating]
  have after (vault : Fin 16) :
      (system.program.countCycle.view system.store vault).tickGru ops =
        .lent ((GRUCell.tick ops)^[ticks + 1]
          ⟨(own vault).start system.delivered
            system.program.aggregatedMessage, sa vault, feeder vault⟩) := by
    rw [show system.program.countCycle.view system.store vault =
      system.program.view system.store vault from rfl, seen,
      VaultView.tickGru_lent, Function.iterate_succ_apply']
  refine ⟨cells, own, sa, feeder, ?_, ?_⟩
  · have running : (∀ vault, ((system.program.countCycle.view system.store
        vault).tickGru ops).gruDone) ↔ ¬ ticks + 1 < 137 := by
      simp only [after, VaultView.gruDone_lent]
      have evaluation (vault : Fin 16) := GRUCell.iterate_evaluation ops
        (own vault) (sa vault) (feeder vault) system.delivered
        system.program.aggregatedMessage (empty vault)
      constructor
      · intro all goesOn
        exact Bool.noConfusion (((evaluation 0).1 _ goesOn).symm.trans (all 0))
      · intro last
        have isLast : 137 = ticks + 1 :=
          Nat.le_antisymm (Nat.le_of_not_lt last) inStep.early
        rw [isLast] at evaluation
        exact fun vault => (evaluation vault).2.1
    rw [next_tick saOutputs ticked]
    apply program.trans
    rw [if_congr running rfl rfl, ite_not]
    rfl
  · intro vault
    refine ⟨sameParameters vault, empty vault, ?_⟩
    rw [next_tick saOutputs ticked]
    exact (views vault).trans (after vault)

theorem Sound.tick_updating
    (updating : system.program.phase = .applyUpdateGru) :
    (system.next ops (.tick saOutputs)).Sound ops cell := by
  obtain ⟨ticks, inStep⟩ := sound.updating updating
  obtain ⟨cells, own, sa, feeder, program, vaults⟩ :=
    sound.next_updating saOutputs updating inStep
  have cellAfter (vault : Fin 16) :
      (system.next ops (.tick saOutputs)).program.gruCells vault = _ :=
    congrArg VaultView.cell (vaults vault).2.2
  have parametersAfter (vault : Fin 16) :
      ((system.next ops (.tick saOutputs)).program.gruCells vault).parameters =
        cell.parameters := by
    rw [cellAfter]
    exact (GRUCell.parameters_iterate ops _ _).trans (vaults vault).1
  have delivered : (system.next ops (.tick saOutputs)).delivered =
      system.delivered := rfl
  have wired : (system.next ops (.tick saOutputs)).program.OwnVaults ∧
      ∀ vault, ((system.next ops (.tick saOutputs)).program.systolicArrays
          vault).isSome ∧
        ((system.next ops (.tick saOutputs)).program.feeders vault).isSome := by
    rw [program]
    split
    · exact ⟨⟨sound.own.arrays, sound.own.feeders⟩, sound.attached⟩
    · exact ⟨⟨sound.own.arrays, sound.own.feeders⟩, sound.attached⟩
  generalize system.next ops (.tick saOutputs) = after at *
  obtain ⟨afterProgram, store, afterDelivered⟩ := after
  simp only at program delivered
  subst delivered
  split at program
  case isTrue goesOn =>
    subst program
    constructor
    · exact wired.1
    · exact wired.2
    · exact parametersAfter
    · exact fun _ notUpdating => absurd updating notUpdating
    · exact fun computing => by simp [countCycle, updating] at computing
    · exact fun loading => by simp [countCycle, updating] at loading
    · intro _
      refine ⟨ticks + 1, goesOn, ?_⟩
      intro vault
      exact ⟨own vault, sa vault, feeder vault, vaults vault⟩
    · exact fun finished => by simp [countCycle, updating] at finished
  case isFalse last =>
    have isLast : 137 = ticks + 1 :=
      Nat.le_antisymm (Nat.le_of_not_lt last) inStep.early
    have evaluation (vault : Fin 16) := GRUCell.iterate_evaluation ops
      (own vault) (sa vault) (feeder vault) system.delivered
      system.program.aggregatedMessage (vaults vault).2.1
    rw [isLast] at evaluation
    subst program
    constructor
    · exact wired.1
    · exact wired.2
    · exact parametersAfter
    · intro _ _ vault lengths isLengths row
      rw [lineLengths_eq, (vaults vault).2.2] at isLengths
      obtain rfl := Option.some.inj isLengths
      have nothing := congrArg List.length ((evaluation vault).2.2.2 row)
      exact nothing.trans_le (Nat.zero_le _)
    · exact VertexProgramPhase.noConfusion
    · exact VertexProgramPhase.noConfusion
    · exact VertexProgramPhase.noConfusion
    · intro _
      apply averageHidden_of_equal
      intro vault
      rw [show cells vault = _ from cellAfter vault]
      exact (evaluation vault).2.2.1.trans
        (GRUCell.result_congr ops (vaults vault).1 _ _)

theorem Sound.tick :
    (system.next ops (.tick saOutputs)).Sound ops cell := by
  cases phase : system.program.phase with
  | idle => exact sound.tick_of_free saOutputs (Or.inl phase)
  | done => exact sound.tick_of_free saOutputs (Or.inr phase)
  | genUpdateGather => exact sound.tick_gathering saOutputs phase
  | genUpdateCompute => exact sound.tick_computing saOutputs phase
  | genUpdatePsauDrain => exact sound.tick_draining saOutputs phase
  | applyUpdateLoadH => exact sound.tick_loading saOutputs phase
  | applyUpdateGru => exact sound.tick_updating saOutputs phase
  | writeback => exact sound.tick_writeback saOutputs phase

end Tick

/-! ## Whole runs -/

section Runs

variable {ops cell} {system : VertexSystem F} [CharZero F]

theorem Sound.next
    (sound : system.Sound ops cell)
    {event : Event F}
    (alone : system.Alone event) :
    (system.next ops event).Sound ops cell := by
  cases event with
  | start cfg => exact sound.start alone cfg
  | tick saOutputs => exact sound.tick saOutputs
  | deliver payload => exact sound.deliver payload
  | environment store => exact sound.environment alone

theorem Sound.run
    (sound : system.Sound ops cell)
    {events : List (Event F)}
    (alone : system.RunsAlone ops events) :
    (system.run ops events).Sound ops cell :=
  Run.Along.always (fun _ _ sound alone => sound.next alone) sound alone
    events (List.prefix_refl events)

/-- What is left of a vertex once its evaluation has begun fits into a number
of ticks. -/
def FinishesWithin
    (ops : FloatOps F)
    (cell : GRUCell F)
    (system : VertexSystem F)
    (ticks : Nat) : Prop :=
  system.program.phase = .done ∨
    (system.program.phase = .writeback ∧ 1 ≤ ticks) ∨
    (system.program.phase = .applyUpdateGru ∧
      ∃ made, system.InStep ops cell made ∧ 138 ≤ made + ticks)

omit [CharZero F] in
theorem FinishesWithin.next
    (sound : system.Sound ops cell)
    {ticks : Nat}
    (finishes : system.FinishesWithin ops cell (ticks + 1))
    (saOutputs : Fin 16 → Vec16 F) :
    (system.next ops (.tick saOutputs)).FinishesWithin ops cell ticks := by
  rcases finishes with done | ⟨writeback, -⟩ | ⟨updating, made, inStep, fits⟩
  · have ticked : system.program.tick ops system.store saOutputs =
        (system.program, system.store, []) := by
      simp [TGNVertexProgram.tick, done]
    rw [next_tick saOutputs ticked]
    exact Or.inl done
  · have ticked : system.program.tick ops system.store saOutputs =
        (system.program.countCycle.tickWriteback, system.store, []) := by
      simp [TGNVertexProgram.tick, writeback]
    rw [next_tick saOutputs ticked]
    exact Or.inl rfl
  · obtain ⟨cells, own, sa, feeder, program, vaults⟩ :=
      sound.next_updating saOutputs updating inStep
    split at program
    case isTrue goesOn =>
      refine Or.inr (Or.inr ⟨?_, made + 1, ⟨goesOn, ?_⟩, by omega⟩)
      · rw [program]
        exact updating
      · intro vault
        refine ⟨own vault, sa vault, feeder vault, (vaults vault).1,
          (vaults vault).2.1, (vaults vault).2.2.trans ?_⟩
        rw [program]
        rfl
    case isFalse last =>
      have early := inStep.early
      refine Or.inr (Or.inl ⟨?_, by omega⟩)
      rw [program]

/-- A vertex whose evaluation has begun is done after 138 ticks. -/
theorem Sound.done_of_finishesWithin
    (sound : system.Sound ops cell)
    {ticks : Nat}
    (finishes : system.FinishesWithin ops cell ticks)
    (saOutputs : Fin 16 → Vec16 F) :
    (system.run ops (List.replicate ticks
      (.tick saOutputs))).program.phase = .done := by
  induction ticks generalizing system with
  | zero =>
      rcases finishes with done | ⟨-, fits⟩ | ⟨-, made, inStep, fits⟩
      · exact done
      · exact absurd fits (by decide)
      · have early := inStep.early
        omega
  | succ ticks inductionHypothesis =>
      rw [List.replicate_succ]
      exact inductionHypothesis (sound.tick saOutputs)
        (finishes.next sound saOutputs)

end Runs

section Built

variable (piccolos : Fin 16 → Option Nat) (psau : Nat)
  (arrays feeders : Fin 16 → Nat) (wR wZ wIn wHn : Weights F)
  (bR bZ bIn bHn : Vec16 F) (store : Store F)

/-- A new cell with the same weights and biases. -/
def singleCell : GRUCell F :=
  (GRUCell.initial.loadWeights wR wZ wIn wHn).loadBiases bR bZ bIn bHn

/-- A new program with all vaults attached. -/
def allAttached : VertexSystem F :=
  built piccolos psau (fun vault => some (arrays vault))
    (fun vault => some (feeders vault)) wR wZ wIn wHn bR bZ bIn bHn store

variable {arrays feeders store}

theorem sound_allAttached
    (arraysInjective : Function.Injective arrays)
    (feedersInjective : Function.Injective feeders)
    (empty : ∀ vault, (store.feeders (feeders vault)).isEmpty = true) :
    (allAttached piccolos psau arrays feeders wR wZ wIn wHn bR bZ bIn bHn
      store).Sound ops (singleCell wR wZ wIn wHn bR bZ bIn bHn) := by
  apply sound_of_resting
  · constructor
    · intro vault other ref isRef isOther
      exact arraysInjective (Option.some.inj (isRef.trans isOther.symm))
    · intro vault other ref isRef isOther
      exact feedersInjective (Option.some.inj (isRef.trans isOther.symm))
  · exact fun _ => ⟨rfl, rfl⟩
  · exact fun _ => rfl
  · intro vault lengths isLengths row
    obtain rfl := Option.some.inj isLengths
    have nothing := congrArg List.length
      (ArrayFeeder.delayLines_of_isEmpty (empty vault) row)
    exact nothing.trans_le (Nat.zero_le _)
  · exact Or.inl rfl

/-- Whatever has been processed before, a vertex that is done has the hidden
state a single cell computes on a new array and an empty feeder. -/
theorem evaluates_of_done
    [CharZero F]
    (arraysInjective : Function.Injective arrays)
    (feedersInjective : Function.Injective feeders)
    (empty : ∀ vault, (store.feeders (feeders vault)).isEmpty = true)
    (events : List (Event F))
    (alone : (allAttached piccolos psau arrays feeders wR wZ wIn wHn bR bZ bIn
      bHn store).RunsAlone ops events)
    (done : ((allAttached piccolos psau arrays feeders wR wZ wIn wHn bR bZ bIn
      bHn store).run ops events).program.phase = .done) :
    let system := (allAttached piccolos psau arrays feeders wR wZ wIn wHn bR bZ
      bIn bHn store).run ops events
    GRUCell.Evaluates ops
      ⟨(singleCell wR wZ wIn wHn bR bZ bIn bHn).start system.delivered
        system.program.aggregatedMessage, .initial, .initial⟩
      system.program.newHiddenState := by
  intro system
  have sound : system.Sound ops (singleCell wR wZ wIn wHn bR bZ bIn bHn) :=
    (sound_allAttached ops piccolos psau wR wZ wIn wHn bR bZ bIn bHn
      arraysInjective feedersInjective empty).run alone
  rw [sound.finished (Or.inr done)]
  exact GRUCell.evaluates_readouts ops _ _ _ _ _ fun _ => rfl

end Built

/-! ## One vertex without neighbors -/

section Witness

/-- Identity weights, no biases, and the vaults numbered. -/
def numbered : VertexSystem ℚ :=
  allAttached (fun vault => some vault.val) 0 Fin.val Fin.val
    GRUCell.identityWeights GRUCell.identityWeights GRUCell.identityWeights
    GRUCell.identityWeights 0 0 0 0 Store.initial

/-- A vertex up to the start of its evaluation. -/
def untilUpdate : List (Event ℚ) :=
  .start {} :: List.replicate 22 (.tick 0) ++ [.deliver 1, .tick 0]

/-- A whole vertex. -/
def wholeVertex : List (Event ℚ) :=
  untilUpdate ++ List.replicate 138 (.tick 0)

theorem updating_untilUpdate :
    (numbered.run .atZero untilUpdate).program.phase = .applyUpdateGru := by
  decide +kernel

theorem runsAlone_wholeVertex : numbered.RunsAlone .atZero wholeVertex := by
  refine Run.along_cons.mpr ⟨Or.inl rfl, ?_⟩
  apply Run.along_of_forall_mem
  intro event isLater system
  cases event with
  | start cfg => simp at isLater
  | tick saOutputs => trivial
  | deliver payload => trivial
  | environment store => simp at isLater

theorem done_wholeVertex :
    (numbered.run .atZero wholeVertex).program.phase = .done := by
  have sound : numbered.Sound .atZero _ :=
    sound_allAttached .atZero _ _ _ _ _ _ _ _ _ _ Fin.val_injective
      Fin.val_injective fun _ => show ArrayFeeder.initial.isEmpty by decide
  have alone : numbered.RunsAlone .atZero untilUpdate := by
    intro before event isPrefix
    exact runsAlone_wholeVertex before event
      (isPrefix.trans (List.prefix_append _ _))
  have updating := sound.run alone
  have whole : numbered.run .atZero wholeVertex =
      (numbered.run .atZero untilUpdate).run .atZero
        (List.replicate 138 (.tick 0)) := Run.after_append _ _ _ _
  rw [whole]
  refine updating.done_of_finishesWithin (Or.inr (Or.inr
    ⟨updating_untilUpdate, ?_⟩)) 0
  obtain ⟨made, inStep⟩ := updating.updating updating_untilUpdate
  exact ⟨made, inStep, Nat.le_add_left 138 made⟩

/-- A whole vertex, whose result is that of a single cell. -/
theorem wholeVertex_evaluates :
    GRUCell.Evaluates .atZero
      ⟨(singleCell GRUCell.identityWeights GRUCell.identityWeights
          GRUCell.identityWeights GRUCell.identityWeights 0 0 0 0).start
        (numbered.run .atZero wholeVertex).delivered
        (numbered.run .atZero wholeVertex).program.aggregatedMessage,
        .initial, .initial⟩
      (numbered.run .atZero wholeVertex).program.newHiddenState := by
  have alone := runsAlone_wholeVertex
  have done := done_wholeVertex
  unfold numbered at alone done ⊢
  exact evaluates_of_done .atZero (fun vault => some vault.val) 0
    GRUCell.identityWeights GRUCell.identityWeights GRUCell.identityWeights
    GRUCell.identityWeights 0 0 0 0 Fin.val_injective Fin.val_injective
    (fun _ => show ArrayFeeder.initial.isEmpty by decide) wholeVertex
    alone done

end Witness

end VertexSystem

end PimGraphs
