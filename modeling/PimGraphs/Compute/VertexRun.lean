import PimGraphs.Compute.VertexProgram
import PimGraphs.Library.Run
import PimGraphs.Library.Sweep

/-!
# Runs of the vertex program

A run starts vertices, ticks the program and delivers hidden states, in any
order, while the rest of the hardware moves on.  What a tick does to the
arrays, feeders and GRU cells it does vault by vault: when no two vaults share
an array or a feeder, every vault is changed once and on its own.
-/

namespace PimGraphs

/-- A vault as the vertex program sees it: its GRU cell, and its array and
feeder where they are attached. -/
@[ext] structure VaultView (F : Type) where
  cell : GRUCell F
  array : Option (SystolicArray F)
  feeder : Option (ArrayFeeder F)

namespace VaultView

variable {F : Type}

/-- The vault's GRU tick. -/
def tickGru
    [Zero F]
    [One F]
    [Add F]
    [Sub F]
    [Mul F]
    (ops : FloatOps F)
    (vault : VaultView F) : VaultView F :=
  match vault.array, vault.feeder with
  | some sa, some feeder =>
      let after := GRUCell.tick ops ⟨vault.cell, sa, feeder⟩
      ⟨after.cell, some after.sa, some after.feeder⟩
  | _, _ => vault

/-- The vault holds the GRU phase up no longer. -/
def gruDone (vault : VaultView F) : Bool :=
  match vault.array, vault.feeder with
  | some _, some _ => vault.cell.isDone
  | _, _ => true

/-- The vault's array is clocked through its feeder. -/
def clock [Zero F] [Add F] [Mul F] (vault : VaultView F) : VaultView F :=
  match vault.array, vault.feeder with
  | some sa, some feeder =>
      { vault with
        array := some (sa.tick feeder.getNextActivations.1 0).2
        feeder := some feeder.getNextActivations.2 }
  | _, _ => vault

end VaultView

namespace TGNVertexProgram

variable {F : Type}

/-- One vault of a program. -/
def view
    (program : TGNVertexProgram F)
    (store : Store F)
    (vault : Fin 16) : VaultView F where
  cell := program.gruCells vault
  array := (program.systolicArrays vault).map store.arrays
  feeder := (program.feeders vault).map store.feeders

/-- No two vaults share an array or a feeder. -/
structure OwnVaults (program : TGNVertexProgram F) : Prop where
  arrays : ∀ vault other ref, program.systolicArrays vault = some ref →
    program.systolicArrays other = some ref → vault = other
  feeders : ∀ vault other ref, program.feeders vault = some ref →
    program.feeders other = some ref → vault = other

/-- An update is not seen through another reference. -/
theorem map_update_of_ne
    {α : Type}
    {ref : Nat}
    {other : Option Nat}
    (differs : other ≠ some ref)
    (entries : Nat → α)
    (entry : α) :
    other.map (Function.update entries ref entry) = other.map entries := by
  apply Option.map_congr
  intro found isFound
  apply Function.update_of_ne
  rintro rfl
  exact differs isFound

section Stored

variable {program : TGNVertexProgram F} (own : program.OwnVaults)
  (store : Store F)
include own

theorem map_arrays_setArray
    {vault other : Fin 16}
    {ref : Nat}
    (attached : program.systolicArrays vault = some ref)
    (differs : other ≠ vault)
    (array : SystolicArray F) :
    (program.systolicArrays other).map (store.setArray ref array).arrays =
      (program.systolicArrays other).map store.arrays := by
  apply map_update_of_ne
  intro shared
  exact differs (own.arrays other vault ref shared attached)

theorem map_feeders_setFeeder
    {vault other : Fin 16}
    {ref : Nat}
    (attached : program.feeders vault = some ref)
    (differs : other ≠ vault)
    (feeder : ArrayFeeder F) :
    (program.feeders other).map (store.setFeeder ref feeder).feeders =
      (program.feeders other).map store.feeders := by
  apply map_update_of_ne
  intro shared
  exact differs (own.feeders other vault ref shared attached)

end Stored

/-! ## The GRU phase -/

section Gru

variable [Zero F] [One F] [Add F] [Sub F] [Mul F] (ops : FloatOps F)

/-- A vault in the course of a GRU tick. -/
def gruView
    (state : TGNVertexProgram F × Store F × Nat)
    (vault : Fin 16) : VaultView F :=
  state.1.view state.2.1 vault

/-- Nothing of a program has changed but its cells. -/
def SameButCells (program other : TGNVertexProgram F) : Prop :=
  ∃ cells, other = { program with gruCells := cells }

omit [Zero F] [One F] [Add F] [Sub F] [Mul F] in
theorem SameButCells.own
    {program other : TGNVertexProgram F}
    (same : program.SameButCells other)
    (own : program.OwnVaults) :
    other.OwnVaults := by
  obtain ⟨cells, rfl⟩ := same
  exact ⟨own.arrays, own.feeders⟩

/-- A vault without an array or a feeder is skipped. -/
theorem gruVault_of_unattached
    (state : TGNVertexProgram F × Store F × Nat)
    (vault : Fin 16)
    (unattached : state.1.systolicArrays vault = none ∨
      state.1.feeders vault = none) :
    gruVault ops state vault = (state.1, state.2.1, state.2.2 + 1) ∧
      (gruView state vault).tickGru ops = gruView state vault ∧
      (gruView state vault).gruDone = true := by
  unfold gruVault gruView view VaultView.tickGru VaultView.gruDone
  rcases unattached with noArray | noFeeder
  · simp [noArray]
  · cases array : state.1.systolicArrays vault <;> simp [noFeeder, array]

/-- A vault with both is ticked and counted. -/
theorem gruVault_of_attached
    (state : TGNVertexProgram F × Store F × Nat)
    {vault : Fin 16}
    {array feeder : Nat}
    (hasArray : state.1.systolicArrays vault = some array)
    (hasFeeder : state.1.feeders vault = some feeder) :
    let after := GRUCell.tick ops ⟨state.1.gruCells vault,
      state.2.1.arrays array, state.2.1.feeders feeder⟩
    gruVault ops state vault =
        ({ state.1 with
            gruCells := Function.update state.1.gruCells vault after.cell },
          (state.2.1.setArray array after.sa).setFeeder feeder after.feeder,
          state.2.2 + after.cell.isDone.toNat) ∧
      (gruView state vault).tickGru ops =
        ⟨after.cell, some after.sa, some after.feeder⟩ := by
  intro after
  constructor
  · unfold gruVault
    simp only [hasArray, hasFeeder]
    split
    case isTrue finished =>
      have stays : after = ⟨state.1.gruCells vault,
          state.2.1.arrays array, state.2.1.feeders feeder⟩ := if_pos finished
      simp [stays, finished, Store.setArray, Store.setFeeder]
    case isFalse _ =>
      show (_, _, if after.cell.isDone then _ else _) = _
      cases after.cell.isDone <;> rfl
  · simp [gruView, view, hasArray, hasFeeder, VaultView.tickGru, after]

theorem counted_gruVault
    (state : TGNVertexProgram F × Store F × Nat)
    (vault : Fin 16) :
    (gruVault ops state vault).2.2 = state.2.2 +
      ((gruView state vault).tickGru ops).gruDone.toNat := by
  cases hasArray : state.1.systolicArrays vault with
  | none =>
      obtain ⟨skipped, same, finished⟩ :=
        gruVault_of_unattached ops state vault (Or.inl hasArray)
      rw [skipped, same, finished]
      rfl
  | some array =>
      cases hasFeeder : state.1.feeders vault with
      | none =>
          obtain ⟨skipped, same, finished⟩ :=
            gruVault_of_unattached ops state vault (Or.inr hasFeeder)
          rw [skipped, same, finished]
          rfl
      | some feeder =>
          obtain ⟨ticked, seen⟩ :=
            gruVault_of_attached ops state hasArray hasFeeder
          rw [ticked, seen]
          rfl

/-- A vault's turn ticks its own cell, array and feeder only. -/
theorem local_gruVault
    {program : TGNVertexProgram F}
    (own : program.OwnVaults) :
    Sweep.Local (gruVault ops)
      (fun state => program.SameButCells state.1)
      gruView
      (fun _ seen => seen.tickGru ops) := by
  apply Sweep.Local.of_visit
  intro state vault same
  have ownState := same.own own
  cases hasArray : state.1.systolicArrays vault with
  | none =>
      obtain ⟨skipped, unchanged, -⟩ :=
        gruVault_of_unattached ops state vault (Or.inl hasArray)
      rw [skipped, unchanged]
      exact ⟨same, rfl, fun _ _ => rfl⟩
  | some array =>
      cases hasFeeder : state.1.feeders vault with
      | none =>
          obtain ⟨skipped, unchanged, -⟩ :=
            gruVault_of_unattached ops state vault (Or.inr hasFeeder)
          rw [skipped, unchanged]
          exact ⟨same, rfl, fun _ _ => rfl⟩
      | some feeder =>
          obtain ⟨ticked, seen⟩ :=
            gruVault_of_attached ops state hasArray hasFeeder
          rw [ticked, seen]
          refine ⟨?_, ?_, ?_⟩
          · obtain ⟨cells, isSame⟩ := same
            rw [isSame]
            exact ⟨_, rfl⟩
          · simp [gruView, view, hasArray, hasFeeder, Store.setArray,
              Store.setFeeder]
          · intro other differs
            have arrays := map_arrays_setArray ownState state.2.1 hasArray
              differs
            have feeders := map_feeders_setFeeder ownState state.2.1
              hasFeeder differs
            ext1
            · exact Function.update_of_ne differs _ _
            · exact arrays _
            · exact feeders _

variable [Div F] [NatCast F]

/-- A GRU tick ticks every vault, and ends the phase once all are done. -/
theorem tickGru_spec
    {program : TGNVertexProgram F}
    (own : program.OwnVaults)
    (store : Store F) :
    ∃ cells,
      (program.tickGru ops store).1 =
        (if ∀ vault, ((program.view store vault).tickGru ops).gruDone then
          { program with
            gruCycles := program.gruCycles + 1
            gruCells := cells
            newHiddenState := averageHidden cells
            phase := .writeback }
        else
          { program with
            gruCycles := program.gruCycles + 1
            gruCells := cells }) ∧
      ∀ vault, (program.tickGru ops store).1.view
          (program.tickGru ops store).2 vault =
        (program.view store vault).tickGru ops := by
  let start : TGNVertexProgram F × Store F × Nat :=
    ({ program with gruCycles := program.gruCycles + 1 }, store, 0)
  have ownStart : start.1.OwnVaults := ⟨own.arrays, own.feeders⟩
  have turns := local_gruVault ops ownStart
  have atStart : start.1.SameButCells start.1 := ⟨_, rfl⟩
  let last := (List.finRange 16).foldl (gruVault ops) start
  obtain ⟨cells, isLast⟩ : start.1.SameButCells last.1 :=
    turns.condition_foldl (List.finRange 16) atStart
  have seen (vault : Fin 16) :
      gruView last vault = (program.view store vault).tickGru ops :=
    turns.view_foldl (List.nodup_finRange 16) (List.mem_finRange vault) start
      atStart
  have counted : last.2.2 = 0 + (List.finRange 16).countP fun vault =>
      ((program.view store vault).tickGru ops).gruDone :=
    turns.count_foldl (fun state => state.2.2)
      (fun _ view => (view.tickGru ops).gruDone)
      (fun state vault _ => counted_gruVault ops state vault)
      (List.nodup_finRange 16) start atStart
  have full : 16 ≤ last.2.2 ↔
      ∀ vault, ((program.view store vault).tickGru ops).gruDone := by
    have most := List.countP_le_length (p := fun vault =>
      ((program.view store vault).tickGru ops).gruDone) (l := List.finRange 16)
    have all := List.countP_eq_length (p := fun vault =>
      ((program.view store vault).tickGru ops).gruDone) (l := List.finRange 16)
    rw [List.length_finRange] at most all
    rw [counted, Nat.zero_add]
    refine Iff.trans ⟨fun least => Nat.le_antisymm most least, Nat.le_of_eq ∘
      Eq.symm⟩ (all.trans ?_)
    simp
  have result : program.tickGru ops store =
      if last.2.2 < 16 then (last.1, last.2.1) else
        ({ last.1 with
            newHiddenState := averageHidden last.1.gruCells
            phase := .writeback }, last.2.1) := rfl
  refine ⟨cells, ?_, ?_⟩
  · rw [result, isLast]
    split
    case isTrue few =>
      rw [if_neg (fun all => Nat.not_lt_of_le (full.mpr all) few)]
    case isFalse many =>
      rw [if_pos (full.mp (Nat.le_of_not_lt many))]
  · intro vault
    rw [← seen, result]
    split
    · rfl
    · rfl

end Gru

/-- The average adds every cell's share of the result once. -/
theorem averageHidden_apply
    [Field F]
    (cells : Fin 16 → GRUCell F)
    (lane : Fin 16) :
    averageHidden cells lane =
      ∑ vault, (cells vault).hNew lane / ((16 : Nat) : F) := by
  have summed (vaults : List (Fin 16)) (start : Vec16 F) :
      vaults.foldl (fun sum vault lane =>
          sum lane + (cells vault).hNew lane / ((16 : Nat) : F)) start lane =
        start lane + (vaults.map fun vault =>
          (cells vault).hNew lane / ((16 : Nat) : F)).sum := by
    induction vaults generalizing start with
    | nil => rw [List.foldl_nil, List.map_nil, List.sum_nil, add_zero]
    | cons vault rest inductionHypothesis =>
        rw [List.foldl_cons, inductionHypothesis, List.map_cons,
          List.sum_cons, add_assoc]
  unfold averageHidden
  rw [summed, Pi.zero_apply, zero_add, Fin.sum_univ_def]

/-! ## What a tick does to the program -/

section Phases

variable [Zero F] [One F] [Add F] [Sub F] [Mul F] (ops : FloatOps F)

/-- A vault's turn ticks its cell on some array and feeder, or leaves it. -/
theorem cells_gruVault
    {holds : GRUCell F → Prop}
    (kept : ∀ state : GRUCell.Borrowed F, holds state.cell →
      holds (GRUCell.tick ops state).cell)
    {program : TGNVertexProgram F}
    (state : TGNVertexProgram F × Store F × Nat)
    (vault : Fin 16)
    (reached : ∃ cells, (∀ vault, holds (cells vault)) ∧
      state.1 = { program with gruCells := cells }) :
    ∃ cells, (∀ vault, holds (cells vault)) ∧
      (gruVault ops state vault).1 = { program with gruCells := cells } := by
  obtain ⟨cells, all, isState⟩ := reached
  cases hasArray : state.1.systolicArrays vault with
  | none =>
      rw [(gruVault_of_unattached ops state vault (Or.inl hasArray)).1]
      exact ⟨cells, all, isState⟩
  | some array =>
      cases hasFeeder : state.1.feeders vault with
      | none =>
          rw [(gruVault_of_unattached ops state vault (Or.inr hasFeeder)).1]
          exact ⟨cells, all, isState⟩
      | some feeder =>
          have ownCell : holds (state.1.gruCells vault) := by
            rw [isState]
            exact all vault
          have ticked := kept ⟨state.1.gruCells vault,
            state.2.1.arrays array, state.2.1.feeders feeder⟩ ownCell
          rw [(gruVault_of_attached ops state hasArray hasFeeder).1]
          generalize GRUCell.tick ops _ = after at ticked ⊢
          refine ⟨Function.update cells vault after.cell, ?_, ?_⟩
          · intro other
            by_cases own : other = vault
            · subst own
              rw [Function.update_self]
              exact ticked
            · rw [Function.update_of_ne own]
              exact all other
          · rw [isState]

variable [Div F] [NatCast F] (program : TGNVertexProgram F) (store : Store F)

/-- A GRU tick changes the cells only, one tick each, or ends the phase with
their average. -/
theorem tickGru_cases
    (holds : GRUCell F → Prop)
    (kept : ∀ state : GRUCell.Borrowed F, holds state.cell →
      holds (GRUCell.tick ops state).cell)
    (all : ∀ vault, holds (program.gruCells vault)) :
    ∃ cells, (∀ vault, holds (cells vault)) ∧
      ((program.tickGru ops store).1 =
          { program with
            gruCycles := program.gruCycles + 1
            gruCells := cells } ∨
        (program.tickGru ops store).1 =
          { program with
            gruCycles := program.gruCycles + 1
            gruCells := cells
            newHiddenState := averageHidden cells
            phase := .writeback }) := by
  let start : TGNVertexProgram F × Store F × Nat :=
    ({ program with gruCycles := program.gruCycles + 1 }, store, 0)
  let last := (List.finRange 16).foldl (gruVault ops) start
  have atStart : ∃ cells, (∀ vault, holds (cells vault)) ∧
      start.1 = { start.1 with gruCells := cells } :=
    ⟨program.gruCells, all, rfl⟩
  have reached : ∃ cells, (∀ vault, holds (cells vault)) ∧
      last.1 = { start.1 with gruCells := cells } := by
    refine List.foldlRecOn
      (motive := fun state : TGNVertexProgram F × Store F × Nat =>
        ∃ cells, (∀ vault, holds (cells vault)) ∧
          state.1 = { start.1 with gruCells := cells })
      _ _ atStart ?_
    intro state reached vault _
    exact cells_gruVault ops kept state vault reached
  obtain ⟨cells, every, isLast⟩ := reached
  have result : program.tickGru ops store =
      if last.2.2 < 16 then (last.1, last.2.1) else
        ({ last.1 with
            newHiddenState := averageHidden last.1.gruCells
            phase := .writeback }, last.2.1) := rfl
  refine ⟨cells, every, ?_⟩
  rw [result, isLast]
  split
  · exact Or.inl rfl
  · exact Or.inr rfl

/-- A tick outside the update: the hidden states and the cells stay, and a
program that begins to wait for its hidden state has none delivered. -/
structure Prepares (before after : TGNVertexProgram F) : Prop where
  prevHiddenState : after.prevHiddenState = before.prevHiddenState
  newHiddenState : after.newHiddenState = before.newHiddenState
  gruCells : after.gruCells = before.gruCells
  hLoadDone : after.hLoadDone = true → before.hLoadDone = true
  waits : after.phase = .applyUpdateLoadH → after.hLoadDone = false
  notUpdating : after.phase ≠ .applyUpdateGru

/-- A tick of a phase other than the load and the evaluation prepares. -/
theorem prepares_tick
    (saOutputs : Fin 16 → Vec16 F)
    (notLoading : program.phase ≠ .applyUpdateLoadH)
    (notUpdating : program.phase ≠ .applyUpdateGru) :
    program.Prepares (program.tick ops store saOutputs).1 := by
  unfold tick
  cases phase : program.phase with
  | applyUpdateLoadH => exact absurd phase notLoading
  | applyUpdateGru => exact absurd phase notUpdating
  | idle =>
      constructor <;> simp [phase]
  | done =>
      constructor <;> simp [phase]
  | writeback =>
      constructor <;> simp [tickWriteback, countCycle]
  | genUpdateGather =>
      simp only [tickGenUpdateGather]
      split
      · constructor <;> simp [countCycle]
      · constructor <;> simp [countCycle, phase]
  | genUpdateCompute =>
      simp only [tickGenUpdateCompute]
      split
      · constructor <;> simp [countCycle]
      · constructor <;> simp [countCycle, phase]
  | genUpdatePsauDrain =>
      simp only [tickPsauDrain]
      split
      · constructor <;> simp [countCycle, acceptMessage]
      · split
        · constructor <;> simp [countCycle, acceptMessage]
        · constructor <;> simp [countCycle, phase]

/-- A tick that waits for the hidden state. -/
theorem tick_waiting
    (saOutputs : Fin 16 → Vec16 F)
    (loading : program.phase = .applyUpdateLoadH)
    (waiting : program.hLoadDone = false) :
    (program.tick ops store saOutputs).1 =
      { program with
        totalCycles := program.totalCycles + 1
        loadHCycles := program.loadHCycles + 1 } := by
  simp [tick, loading, tickLoadHiddenState, countCycle, waiting]

/-- With the hidden state delivered all cells start on it. -/
theorem tick_delivered
    (saOutputs : Fin 16 → Vec16 F)
    (loading : program.phase = .applyUpdateLoadH)
    (delivered : program.hLoadDone = true) :
    (program.tick ops store saOutputs).1 =
      { program with
        totalCycles := program.totalCycles + 1
        loadHCycles := program.loadHCycles + 1
        gruCells := fun vault =>
          (program.gruCells vault).start program.prevHiddenState
            program.aggregatedMessage
        gruCycles := 0
        phase := .applyUpdateGru } := by
  simp [tick, loading, tickLoadHiddenState, countCycle, delivered]

/-- A tick of the evaluations ticks every cell at most once, and the last one
leaves the average of the results. -/
theorem tick_updating_cases
    (saOutputs : Fin 16 → Vec16 F)
    (updating : program.phase = .applyUpdateGru)
    (holds : GRUCell F → Prop)
    (kept : ∀ state : GRUCell.Borrowed F, holds state.cell →
      holds (GRUCell.tick ops state).cell)
    (all : ∀ vault, holds (program.gruCells vault)) :
    ∃ cells, (∀ vault, holds (cells vault)) ∧
      ((program.tick ops store saOutputs).1 =
          { program with
            totalCycles := program.totalCycles + 1
            gruCycles := program.gruCycles + 1
            gruCells := cells } ∨
        (program.tick ops store saOutputs).1 =
          { program with
            totalCycles := program.totalCycles + 1
            gruCycles := program.gruCycles + 1
            gruCells := cells
            newHiddenState := averageHidden cells
            phase := .writeback }) := by
  have ticked : (program.tick ops store saOutputs).1 =
      (program.countCycle.tickGru ops store).1 := by
    simp [tick, updating]
  rw [ticked]
  exact tickGru_cases ops program.countCycle store holds kept all

end Phases

/-! ## The compute phase -/

section Compute

variable [Zero F] [Add F] [Mul F] {program : TGNVertexProgram F}
  (own : program.OwnVaults)
include own

/-- A vault's turn clocks its own array and feeder only. -/
theorem local_clockVault :
    Sweep.Local program.clockVault (fun _ => True) program.view
      (fun _ seen => seen.clock) := by
  apply Sweep.Local.of_visit
  intro store vault _
  cases hasArray : program.systolicArrays vault with
  | none =>
      have skipped : program.clockVault store vault = store := by
        simp [clockVault, hasArray]
      rw [skipped]
      refine ⟨trivial, ?_, fun _ _ => rfl⟩
      simp [view, VaultView.clock, hasArray]
  | some array =>
      cases hasFeeder : program.feeders vault with
      | none =>
          have skipped : program.clockVault store vault = store := by
            simp [clockVault, hasArray, hasFeeder]
          rw [skipped]
          refine ⟨trivial, ?_, fun _ _ => rfl⟩
          simp [view, VaultView.clock, hasArray, hasFeeder]
      | some feeder =>
          refine ⟨trivial, ?_, ?_⟩
          · simp [clockVault, view, VaultView.clock, hasArray, hasFeeder,
              Store.setArray, Store.setFeeder]
          · intro other differs
            have arrays := map_arrays_setArray own
              (store.setFeeder feeder
                (store.feeders feeder).getNextActivations.2) hasArray differs
            have feeders := map_feeders_setFeeder own store hasFeeder differs
            simp only [clockVault, hasArray, hasFeeder]
            ext1
            · rfl
            · exact arrays _
            · exact feeders _

/-- A tick that computes clocks every vault. -/
theorem view_tickGenUpdateCompute
    (store : Store F)
    (saOutputs : Fin 16 → Vec16 F)
    (vault : Fin 16) :
    (program.tickGenUpdateCompute store saOutputs).1.view
        (program.tickGenUpdateCompute store saOutputs).2 vault =
      (program.view store vault).clock := by
  have ownCounted : ({ program with
      computeCycles := program.computeCycles + 1 } :
        TGNVertexProgram F).OwnVaults := ⟨own.arrays, own.feeders⟩
  have clocked := (local_clockVault ownCounted).view_foldl
    (List.nodup_finRange 16) (List.mem_finRange vault) store trivial
  unfold tickGenUpdateCompute
  simp only
  split
  · exact clocked
  · exact clocked

end Compute

/-! ## The gather phase -/

section Gather

variable {program : TGNVertexProgram F}

theorem feeders_issueVaults
    (program : TGNVertexProgram F)
    (store : Store F) :
    ((List.finRange 16).foldl program.issueVault
      (store, [], true)).1.feeders = store.feeders := by
  apply observe_issueVaults (fun store : Store F => store.feeders)
  exact fun _ _ _ => rfl

variable [Zero F] (ops : FloatOps F)

/-- The arrays are not part of the gather. -/
theorem arrays_tickGenUpdateGather (store : Store F) :
    (program.tickGenUpdateGather ops store).2.1.arrays = store.arrays := by
  apply observe_tickGenUpdateGather (fun store : Store F => store.arrays)
  · exact fun _ _ _ => rfl
  · exact fun _ _ _ => rfl

/-- How much a vault's feeder holds in its lines. -/
def lineLengths
    (program : TGNVertexProgram F)
    (store : Store F)
    (vault : Fin 16) : Option (Fin 16 → Nat) :=
  (program.feeders vault).map fun ref row =>
    ((store.feeders ref).delayLines row).length

/-- What the end of the gather adds to the lines of a vault. -/
def pushedLengths
    (program : TGNVertexProgram F)
    (vault : Fin 16)
    (lengths : Option (Fin 16 → Nat)) : Option (Fin 16 → Nat) :=
  if (program.piccolos vault).isSome then
    lengths.map fun held row => held row + (row.val + 1)
  else lengths

theorem local_drainVault (own : program.OwnVaults) :
    Sweep.Local (drainVault ops program) (fun _ => True) program.lineLengths
      program.pushedLengths := by
  apply Sweep.Local.of_visit
  intro store vault _
  cases hasFeeder : program.feeders vault with
  | none =>
      have skipped : drainVault ops program store vault = store := by
        simp [drainVault, hasFeeder]
      rw [skipped]
      refine ⟨trivial, ?_, fun _ _ => rfl⟩
      simp [lineLengths, pushedLengths, hasFeeder]
  | some feeder =>
      cases hasPiccolo : program.piccolos vault with
      | none =>
          have skipped : drainVault ops program store vault = store := by
            simp [drainVault, hasFeeder, hasPiccolo]
          rw [skipped]
          refine ⟨trivial, ?_, fun _ _ => rfl⟩
          simp [pushedLengths, hasPiccolo]
      | some piccolo =>
          refine ⟨trivial, ?_, ?_⟩
          · simp [drainVault, lineLengths, pushedLengths, hasFeeder,
              hasPiccolo, Store.setFeeder, Store.setPiccolo,
              ArrayFeeder.pushVector]
          · intro other differs
            have feeders := map_feeders_setFeeder own store hasFeeder differs
            have lengths := fun pushed => congrArg (Option.map
              fun (held : ArrayFeeder F) (row : Fin 16) =>
                (held.delayLines row).length) (feeders pushed)
            simp only [Option.map_map] at lengths
            simp only [drainVault, hasFeeder, hasPiccolo]
            exact lengths _

/-- Every line holds at most one vector, of which some ticks have taken a
value each. -/
def LinesWithin
    (program : TGNVertexProgram F)
    (store : Store F)
    (ticks : Nat) : Prop :=
  ∀ vault lengths, program.lineLengths store vault = some lengths →
    ∀ row : Fin 16, lengths row ≤ row.val + 1 - ticks

theorem linesWithin_drainVaults
    (own : program.OwnVaults)
    {store : Store F}
    (dry : program.LinesWithin store 16) :
    program.LinesWithin ((List.finRange 16).foldl (drainVault ops program)
      store) 0 := by
  intro vault lengths isLengths row
  have drained := (local_drainVault ops own).view_foldl
    (List.nodup_finRange 16) (List.mem_finRange vault) store trivial
  rw [drained, pushedLengths] at isLengths
  have room := row.isLt
  split at isLengths
  · obtain ⟨held, isHeld, rfl⟩ := Option.map_eq_some_iff.mp isLengths
    have within := dry vault held isHeld row
    simp only
    omega
  · have within := dry vault lengths isLengths row
    omega

/-- A gather tick goes on without touching the lines, or is the last one and
pushes at most one vector into each feeder. -/
theorem tickGenUpdateGather_cases
    (own : program.OwnVaults)
    {store : Store F}
    (dry : program.LinesWithin store 16) :
    ((program.tickGenUpdateGather ops store).1 =
        { program with gatherCycles := program.gatherCycles + 1 } ∧
      program.LinesWithin (program.tickGenUpdateGather ops store).2.1 16) ∨
    ((program.tickGenUpdateGather ops store).1 =
        { program with
          gatherCycles := program.gatherCycles + 1
          computeCycles := 0
          phase := .genUpdateCompute } ∧
      program.LinesWithin (program.tickGenUpdateGather ops store).2.1 0) := by
  let counted : TGNVertexProgram F :=
    { program with gatherCycles := program.gatherCycles + 1 }
  have ownCounted : counted.OwnVaults := ⟨own.arrays, own.feeders⟩
  have issued : counted.LinesWithin ((List.finRange 16).foldl
      counted.issueVault (store, [], true)).1 16 := by
    intro vault lengths isLengths
    apply dry vault lengths
    rw [lineLengths, feeders_issueVaults counted store] at isLengths
    exact isLengths
  have drained := linesWithin_drainVaults ops ownCounted issued
  unfold tickGenUpdateGather
  simp only
  split
  · exact Or.inr ⟨rfl, drained⟩
  · exact Or.inl ⟨rfl, issued⟩

omit [Zero F] in
theorem lineLengths_eq
    (program : TGNVertexProgram F)
    (store : Store F)
    (vault : Fin 16) :
    program.lineLengths store vault =
      (program.view store vault).feeder.map fun feeder row =>
        (feeder.delayLines row).length := by
  simp only [lineLengths, view, Option.map_map]
  rfl

omit [Zero F] in
theorem LinesWithin.dry
    {store : Store F}
    (within : program.LinesWithin store 16)
    {vault : Fin 16}
    {feeder : ArrayFeeder F}
    (attached : (program.view store vault).feeder = some feeder)
    (row : Fin 16) :
    feeder.delayLines row = [] := by
  have lengths : (feeder.delayLines row).length ≤ row.val + 1 - 16 :=
    within vault _
      ((lineLengths_eq program store vault).trans (by rw [attached]; rfl)) row
  have small := row.isLt
  exact List.length_eq_zero_iff.mp (by omega)

end Gather

/-- Starting a vertex does not touch the vaults. -/
theorem startVertex_store
    [Zero F]
    (program : TGNVertexProgram F)
    (store : Store F)
    (cfg : VertexProgramConfig) :
    (program.startVertex store cfg).2.arrays = store.arrays ∧
      (program.startVertex store cfg).2.feeders = store.feeders := by
  constructor
  · apply observe_startVertex (fun store : Store F => store.arrays)
    exact fun _ _ _ => rfl
  · apply observe_startVertex (fun store : Store F => store.feeders)
    exact fun _ _ _ => rfl

end TGNVertexProgram

/-! ## The machine -/

/-- A program, the hardware it refers to, and the hidden state delivered last
while the program waited for one. -/
structure VertexSystem (F : Type) where
  program : TGNVertexProgram F
  store : Store F
  delivered : Vec16 F

namespace VertexSystem

variable {F : Type}

/-- What happens to the program: a vertex is started, the program is ticked, a
hidden state is delivered, or the rest of the hardware moves on. -/
inductive Event (F : Type)
  | start (cfg : VertexProgramConfig)
  | tick (saOutputs : Fin 16 → Vec16 F)
  | deliver (payload : Vec16 F)
  | environment (store : Store F)

/-- The program is free for the next vertex. -/
def Free (system : VertexSystem F) : Prop :=
  system.program.phase = .idle ∨ system.program.phase = .done

variable [Zero F] [One F] [Add F] [Sub F] [Mul F] [Div F] [NatCast F]

/-- One event of the program or its surroundings. -/
def next (ops : FloatOps F) (system : VertexSystem F) :
    Event F → VertexSystem F
  | .start cfg =>
      let (program, store) := system.program.startVertex system.store cfg
      { program, store, delivered := 0 }
  | .tick saOutputs =>
      let (program, store, _) :=
        system.program.tick ops system.store saOutputs
      { system with program, store }
  | .deliver payload =>
      { system with
        program := system.program.deliverHidden payload
        delivered :=
          if system.program.phase = .applyUpdateLoadH then payload
          else system.delivered }
  | .environment store => { system with store }

/-- A new program with broadcast weights and biases. -/
def built
    (piccolos : Fin 16 → Option Nat)
    (psau : Nat)
    (systolicArrays feeders : Fin 16 → Option Nat)
    (wR wZ wIn wHn : Weights F)
    (bR bZ bIn bHn : Vec16 F)
    (store : Store F) : VertexSystem F where
  program := ((TGNVertexProgram.initial piccolos psau systolicArrays
    feeders).loadGruWeights wR wZ wIn wHn).loadGruBiases bR bZ bIn bHn
  store := store
  delivered := 0

end VertexSystem

end PimGraphs
