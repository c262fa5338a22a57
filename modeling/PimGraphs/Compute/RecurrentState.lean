import Mathlib.Analysis.Convex.Combination
import PimGraphs.Compute.VertexRun

/-!
# The recurrent hidden state stays bounded

The elementwise step of a GRU blends the previous hidden state with values of
the hyperbolic tangent, and the result of a vertex is an average of such
blends.  Neither leaves a convex set, so a hidden state that is handed from
vertex to vertex stays in the symmetric interval it started in, whatever the
arrays, the weights and the messages are.
-/

namespace PimGraphs

open TGNVertexProgram

section Lanes

variable {F : Type} [Field F] [LinearOrder F]

/-- Every lane lies in its symmetric interval. -/
def LanesWithin (bound v : Vec16 F) : Prop :=
  ∀ lane, v lane ∈ Set.Icc (-bound lane) (bound lane)

/-- Largest values a recurrent state can take that starts as given. -/
def stateBound (h0 : Vec16 F) : Vec16 F := fun lane => max 1 |h0 lane|

theorem one_le_stateBound (h0 : Vec16 F) (lane : Fin 16) :
    1 ≤ stateBound h0 lane :=
  le_max_left _ _

variable [IsStrictOrderedRing F]

theorem lanesWithin_stateBound (h0 : Vec16 F) :
    LanesWithin (stateBound h0) h0 :=
  fun _ => abs_le.mp (le_max_right _ _)

theorem lanesWithin_zero
    {bound : Vec16 F}
    (oneLe : ∀ lane, 1 ≤ bound lane) :
    LanesWithin bound 0 := by
  intro lane
  have nonneg : 0 ≤ bound lane := zero_le_one.trans (oneLe lane)
  exact ⟨neg_nonpos.mpr nonneg, nonneg⟩

/-- A blend of two states within the bounds is within them. -/
theorem lanesWithin_blend
    {bound z h n : Vec16 F}
    (gate : ∀ lane, z lane ∈ Set.Icc 0 1)
    (previous : LanesWithin bound h)
    (candidate : LanesWithin bound n) :
    LanesWithin bound
      (vecAdd (vecHadamard (vecScalarSub 1 z) h) (vecHadamard z n)) := by
  intro lane
  exact convex_Icc _ _ (previous lane) (candidate lane)
    (sub_nonneg.mpr (gate lane).2) (gate lane).1 (sub_add_cancel 1 (z lane))

/-- The average of states within the bounds is within them. -/
theorem lanesWithin_averageHidden
    {bound : Vec16 F}
    {cells : Fin 16 → GRUCell F}
    (within : ∀ vault, LanesWithin bound (cells vault).hNew) :
    LanesWithin bound (averageHidden cells) := by
  intro lane
  have isSum : averageHidden cells lane =
      ∑ vault : Fin 16, (1 / 16 : F) • (cells vault).hNew lane := by
    rw [averageHidden_apply]
    apply Finset.sum_congr rfl
    intro vault _
    rw [smul_eq_mul, div_mul_eq_mul_div, one_mul]
    norm_num
  rw [isSum]
  apply (convex_Icc _ _).sum_mem
  · intro vault _
    positivity
  · norm_num
  · exact fun vault _ => within vault lane

end Lanes

/-! ## One evaluation -/

namespace GRUCell

variable {F : Type} [Field F] [LinearOrder F]

/-- The update gate has been latched. -/
def PastUpdateGate : GRUPhase → Prop
  | .loadNewGateH => True
  | .settleNewGateH => True
  | .drainNewGateH => True
  | .loadNewGateX => True
  | .settleNewGateX => True
  | .drainNewGateX => True
  | .applyElementwise => True
  | _ => False

/-- In the course of an evaluation of a state within the bounds. -/
structure Bounded (bound : Vec16 F) (cell : GRUCell F) : Prop where
  hPrev : LanesWithin bound cell.hPrev
  hNew : LanesWithin bound cell.hNew
  updateGate : PastUpdateGate cell.phase →
    ∀ lane, cell.updateGate lane ∈ Set.Icc 0 1
  newGate : cell.phase = .applyElementwise →
    ∀ lane, cell.newGate lane ∈ Set.Icc (-1) 1

/-- The values of the activation functions that the libraries promise. -/
structure Activations (ops : FloatOps F) : Prop where
  sigmoid : ∀ x, ops.sigmoid x ∈ Set.Icc 0 1
  tanh : ∀ x, ops.tanh x ∈ Set.Icc (-1) 1

variable [IsStrictOrderedRing F]

theorem bounded_start
    {bound hPrev : Vec16 F}
    (oneLe : ∀ lane, 1 ≤ bound lane)
    (within : LanesWithin bound hPrev)
    (cell : GRUCell F)
    (msg : Vec16 F) :
    Bounded bound (cell.start hPrev msg) :=
  ⟨within, lanesWithin_zero oneLe, False.elim,
    fun applying => GRUPhase.noConfusion applying⟩

omit [IsStrictOrderedRing F] in
/-- A drain keeps the bounds when the gate it latches does. -/
theorem Bounded.drainGate
    {bound : Vec16 F}
    {state : Borrowed F}
    (bounded : state.cell.Bounded bound)
    {latch : GRUCell F → GRUCell F}
    {next : GRUPhase}
    (latched : ∀ bottom, Bounded bound
      { latch { state.cell with saBottom := bottom } with
        drainCount := 0
        phase := next }) :
    (GRUCell.drainGate state latch next).cell.Bounded bound := by
  obtain ⟨bottom, waits | latches⟩ := drainGate_cases state latch next
  · rw [waits]
    exact ⟨bounded.hPrev, bounded.hNew, bounded.updateGate, bounded.newGate⟩
  · rw [latches]
    exact latched bottom

/-- The elementwise step keeps the bounds. -/
theorem Bounded.applyElementwise
    {bound : Vec16 F}
    (oneLe : ∀ lane, 1 ≤ bound lane)
    {cell : GRUCell F}
    (bounded : cell.Bounded bound)
    (applying : cell.phase = .applyElementwise) :
    cell.applyElementwise.Bounded bound := by
  have gate : ∀ lane, cell.updateGate lane ∈ Set.Icc 0 1 := by
    apply bounded.updateGate
    rw [applying]
    trivial
  have candidate : LanesWithin bound cell.newGate := by
    intro lane
    have unit := bounded.newGate applying lane
    exact ⟨(neg_le_neg (oneLe lane)).trans unit.1, unit.2.trans (oneLe lane)⟩
  exact ⟨bounded.hPrev, lanesWithin_blend gate bounded.hPrev candidate,
    False.elim, fun applying => GRUPhase.noConfusion applying⟩

/-- A tick on any array and feeder keeps the bounds. -/
theorem Bounded.tick
    {ops : FloatOps F}
    (activations : Activations ops)
    {bound : Vec16 F}
    (oneLe : ∀ lane, 1 ≤ bound lane)
    {state : Borrowed F}
    (bounded : state.cell.Bounded bound) :
    (GRUCell.tick ops state).cell.Bounded bound := by
  obtain ⟨hPrev, hNew, updateGate, newGate⟩ := bounded
  cases running : state.cell.isDone with
  | true =>
      rw [GRUCell.tick, if_pos running]
      exact ⟨hPrev, hNew, updateGate, newGate⟩
  | false =>
      have counted : Bounded bound
          { state.cell with drainCount := state.cell.drainCount + 1 } :=
        ⟨hPrev, hNew, updateGate, newGate⟩
      unfold GRUCell.tick
      rw [if_neg (Bool.eq_false_iff.mp running)]
      cases phase : state.cell.phase with
      | idle => exact counted
      | done => exact counted
      | loadResetGate =>
          exact ⟨hPrev, hNew, False.elim, GRUPhase.noConfusion⟩
      | settleResetGate =>
          exact ⟨hPrev, hNew, False.elim, GRUPhase.noConfusion⟩
      | drainResetGate =>
          apply counted.drainGate
          exact fun _ => ⟨hPrev, hNew, False.elim, GRUPhase.noConfusion⟩
      | loadUpdateGate =>
          exact ⟨hPrev, hNew, False.elim, GRUPhase.noConfusion⟩
      | settleUpdateGate =>
          exact ⟨hPrev, hNew, False.elim, GRUPhase.noConfusion⟩
      | drainUpdateGate =>
          apply counted.drainGate
          exact fun _ => ⟨hPrev, hNew, fun _ _ => activations.sigmoid _,
            GRUPhase.noConfusion⟩
      | loadNewGateH =>
          rw [phase] at updateGate
          exact ⟨hPrev, hNew, updateGate, GRUPhase.noConfusion⟩
      | settleNewGateH =>
          rw [phase] at updateGate
          exact ⟨hPrev, hNew, updateGate, GRUPhase.noConfusion⟩
      | drainNewGateH =>
          rw [phase] at updateGate
          apply counted.drainGate
          exact fun _ => ⟨hPrev, hNew, updateGate, GRUPhase.noConfusion⟩
      | loadNewGateX =>
          rw [phase] at updateGate
          exact ⟨hPrev, hNew, updateGate, GRUPhase.noConfusion⟩
      | settleNewGateX =>
          rw [phase] at updateGate
          exact ⟨hPrev, hNew, updateGate, GRUPhase.noConfusion⟩
      | drainNewGateX =>
          rw [phase] at updateGate
          apply counted.drainGate
          exact fun _ => ⟨hPrev, hNew, updateGate,
            fun _ _ => activations.tanh _⟩
      | applyElementwise => exact counted.applyElementwise oneLe phase

end GRUCell

/-! ## The recurrence -/

/-- The hidden state computed for the current vertex. -/
def TGNVertexProgram.getResult {F : Type} (program : TGNVertexProgram F) :
    Vec16 F :=
  program.newHiddenState

/-- A program on its hardware and the result of the last vertex it has done,
at first the initial hidden state. -/
structure Recurrence (F : Type) where
  machine : VertexSystem F
  lastResult : Vec16 F

namespace Recurrence

open VertexSystem (Event)

variable {F : Type}

/-- The payload of every delivery is the result of the vertex before. -/
def Chained (system : Recurrence F) (event : Event F) : Prop :=
  ∀ payload, event = .deliver payload → payload = system.lastResult

variable [Field F]

/-- One event of the program. -/
def next (ops : FloatOps F) (system : Recurrence F) (event : Event F) :
    Recurrence F :=
  let machine := system.machine.next ops event
  { machine
    lastResult :=
      if machine.program.isDone then machine.program.getResult
      else system.lastResult }

/-- A newly built program and the initial hidden state. -/
def built
    (piccolos : Fin 16 → Option Nat)
    (psau : Nat)
    (systolicArrays feeders : Fin 16 → Option Nat)
    (wR wZ wIn wHn : Weights F)
    (bR bZ bIn bHn : Vec16 F)
    (store : Store F)
    (h0 : Vec16 F) : Recurrence F where
  machine := VertexSystem.built piccolos psau systolicArrays feeders
    wR wZ wIn wHn bR bZ bIn bHn store
  lastResult := h0

variable [LinearOrder F]

/-- The hidden states of a program are within the bounds, and so are its
evaluations while they last. -/
structure ProgramWithin
    (bound : Vec16 F)
    (program : TGNVertexProgram F) : Prop where
  prevHiddenState : LanesWithin bound program.prevHiddenState
  newHiddenState : LanesWithin bound program.newHiddenState
  cells : program.phase = .applyUpdateGru →
    ∀ vault, (program.gruCells vault).Bounded bound

/-- Every hidden state there is lies within the bounds. -/
structure StatesWithin
    (bound : Vec16 F)
    (system : Recurrence F) : Prop where
  program : ProgramWithin bound system.machine.program
  lastResult : LanesWithin bound system.lastResult

section Events

variable [IsStrictOrderedRing F] {ops : FloatOps F} {bound : Vec16 F}
  (oneLe : ∀ lane, 1 ≤ bound lane)
include oneLe

/-- A tick keeps the hidden states within the bounds, whatever the arrays and
feeders hold. -/
theorem ProgramWithin.tick
    (activations : GRUCell.Activations ops)
    {program : TGNVertexProgram F}
    (within : ProgramWithin bound program)
    (store : Store F)
    (saOutputs : Fin 16 → Vec16 F) :
    ProgramWithin bound (program.tick ops store saOutputs).1 := by
  by_cases loading : program.phase = .applyUpdateLoadH
  · cases delivered : program.hLoadDone with
    | false =>
        rw [tick_waiting ops program store saOutputs loading delivered]
        exact ⟨within.prevHiddenState, within.newHiddenState, within.cells⟩
    | true =>
        rw [tick_delivered ops program store saOutputs loading delivered]
        refine ⟨within.prevHiddenState, within.newHiddenState, ?_⟩
        intro _ vault
        exact GRUCell.bounded_start oneLe within.prevHiddenState _ _
  · by_cases updating : program.phase = .applyUpdateGru
    · obtain ⟨cells, bounded, goesOn | ends⟩ := tick_updating_cases ops
        program store saOutputs updating (GRUCell.Bounded bound)
        (fun _ cell => cell.tick activations oneLe) (within.cells updating)
      · rw [goesOn]
        exact ⟨within.prevHiddenState, within.newHiddenState,
          fun _ => bounded⟩
      · rw [ends]
        exact ⟨within.prevHiddenState,
          lanesWithin_averageHidden fun vault => (bounded vault).hNew,
          VertexProgramPhase.noConfusion⟩
    · have prepares := prepares_tick ops program store saOutputs loading
        updating
      refine ⟨?_, ?_, fun updates => absurd updates prepares.notUpdating⟩
      · rw [prepares.prevHiddenState]
        exact within.prevHiddenState
      · rw [prepares.newHiddenState]
        exact within.newHiddenState

/-- Every event keeps the hidden states within the bounds. -/
theorem StatesWithin.next
    (activations : GRUCell.Activations ops)
    {system : Recurrence F}
    (within : system.StatesWithin bound)
    {event : Event F}
    (chained : system.Chained event) :
    (system.next ops event).StatesWithin bound := by
  have program :
      ProgramWithin bound (system.machine.next ops event).program := by
    cases event with
    | start cfg =>
        exact ⟨lanesWithin_zero oneLe, lanesWithin_zero oneLe,
          VertexProgramPhase.noConfusion⟩
    | tick saOutputs =>
        exact within.program.tick oneLe activations system.machine.store
          saOutputs
    | deliver payload =>
        refine ⟨?_, within.program.newHiddenState, within.program.cells⟩
        rw [chained payload rfl]
        exact within.lastResult
    | environment store => exact within.program
  refine ⟨program, ?_⟩
  unfold Recurrence.next
  simp only
  split
  · exact program.newHiddenState
  · exact within.lastResult

omit oneLe in
/-- A state handed on from vertex to vertex never leaves the unit interval or
the interval it started in. -/
theorem abs_getResult_le
    (ops : FloatOps F)
    (activations : GRUCell.Activations ops)
    (piccolos : Fin 16 → Option Nat)
    (psau : Nat)
    (systolicArrays feeders : Fin 16 → Option Nat)
    (wR wZ wIn wHn : Weights F)
    (bR bZ bIn bHn : Vec16 F)
    (store : Store F)
    (h0 : Vec16 F)
    (events : List (Event F))
    (chained : Run.Along (next ops) Chained
      (built piccolos psau systolicArrays feeders wR wZ wIn wHn bR bZ bIn bHn
        store h0) events) :
    Run.Always (next ops)
      (fun system => system.machine.program.isDone = true →
        ∀ lane, |system.machine.program.getResult lane| ≤ max 1 |h0 lane|)
      (built piccolos psau systolicArrays feeders wR wZ wIn wHn bR bZ bIn bHn
        store h0) events := by
  have oneLe := one_le_stateBound h0
  have initially : (built piccolos psau systolicArrays feeders wR wZ wIn wHn
      bR bZ bIn bHn store h0).StatesWithin (stateBound h0) :=
    ⟨⟨lanesWithin_zero oneLe, lanesWithin_zero oneLe,
      VertexProgramPhase.noConfusion⟩, lanesWithin_stateBound h0⟩
  intro before isPrefix _ lane
  have within := chained.always
    (fun _ _ within chains => within.next oneLe activations chains)
    initially before isPrefix
  exact abs_le.mpr (within.program.newHiddenState lane)

end Events

/-! ## Two vertices -/

/-- A vertex without neighbors up to the load of its hidden state. -/
def untilLoad : List (Event ℚ) :=
  .start {} :: List.replicate 22 (.tick 0)

/-- A vertex that is given a hidden state and processed. -/
def vertex (hidden : Vec16 ℚ) : List (Event ℚ) :=
  untilLoad ++ .deliver hidden :: List.replicate 140 (.tick 0)

theorem activations_atZero : GRUCell.Activations FloatOps.atZero :=
  ⟨fun _ => ⟨by norm_num [FloatOps.atZero], by norm_num [FloatOps.atZero]⟩,
    fun _ => ⟨by norm_num [FloatOps.atZero], by norm_num [FloatOps.atZero]⟩⟩

/-- A tick delivers nothing. -/
theorem chained_of_mem_ticks
    {count : Nat}
    {event : Event ℚ}
    (isTick : event ∈ List.replicate count (.tick 0))
    (system : Recurrence ℚ) :
    system.Chained event := by
  rw [List.eq_of_mem_replicate isTick]
  rintro payload ⟨⟩

/-- All vaults attached, and every lane of the first hidden state is two. -/
def startingAtTwo : Recurrence ℚ :=
  built (fun vault => some vault.val) 0 (fun vault => some vault.val)
    (fun vault => some vault.val) GRUCell.identityWeights
    GRUCell.identityWeights GRUCell.identityWeights GRUCell.identityWeights
    0 0 0 0 Store.initial 2

/-- The state the first vertex leaves is given to the second. -/
def handedOn : Vec16 ℚ :=
  (Run.after (next .atZero) startingAtTwo (vertex 2 ++ untilLoad)).lastResult

/-- The first vertex is done before the second starts. -/
example : (Run.after (next .atZero) startingAtTwo
    (vertex 2)).machine.program.phase = .done := by
  decide +kernel

/-- A vertex is chained if it is given the result of the one before. -/
theorem chained_vertex
    (system : Recurrence ℚ)
    (hidden : Vec16 ℚ)
    (given : hidden =
      (Run.after (next .atZero) system untilLoad).lastResult) :
    Run.Along (next .atZero) Chained system (vertex hidden) := by
  have ticks {count : Nat} (system : Recurrence ℚ) :
      Run.Along (next .atZero) Chained system
        (List.replicate count (.tick 0)) :=
    Run.along_of_forall_mem fun _ isTick => chained_of_mem_ticks isTick
  refine Run.along_append.mpr ⟨Run.along_cons.mpr ⟨?_, ticks _⟩,
    Run.along_cons.mpr ⟨?_, ticks _⟩⟩
  · rintro payload ⟨⟩
  · rintro payload isDelivery
    rw [← given]
    exact (VertexSystem.Event.deliver.inj isDelivery).symm

theorem chained_twoVertices :
    Run.Along (next .atZero) Chained startingAtTwo
      (vertex 2 ++ vertex handedOn) := by
  refine Run.along_append.mpr ⟨chained_vertex _ _ ?_, chained_vertex _ _ ?_⟩
  · decide +kernel
  · rw [handedOn, Run.after_append]

/-- Two vertices, the first of which starts with two in every lane. -/
theorem twoVertices_getResult_le :
    Run.Always (next .atZero)
      (fun system => system.machine.program.isDone = true →
        ∀ lane, |system.machine.program.getResult lane| ≤
          max 1 |(2 : Vec16 ℚ) lane|)
      startingAtTwo (vertex 2 ++ vertex handedOn) :=
  abs_getResult_le .atZero activations_atZero (fun vault => some vault.val) 0
    (fun vault => some vault.val) (fun vault => some vault.val)
    GRUCell.identityWeights GRUCell.identityWeights GRUCell.identityWeights
    GRUCell.identityWeights 0 0 0 0 Store.initial 2 _ chained_twoVertices

end Recurrence

end PimGraphs
