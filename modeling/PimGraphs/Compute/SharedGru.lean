import PimGraphs.Compute.GruResult

/-!
# An evaluation on shared hardware

The simulator loop clocks the feeder and the array of a vault in every cycle,
also while a GRU cell has borrowed them.  Two ticks of the array then pass for
every tick of a drain, and the product has left the array long before the cell
reads the bottom row: every gate sees zeros.
-/

namespace PimGraphs

namespace GRUCell

variable {F : Type} [Field F] (ops : FloatOps F)

/-- A clock of the borrowed feeder and array by somebody else. -/
def clockBorrowed (state : Borrowed F) : Borrowed F :=
  let path := (⟨state.feeder, state.sa⟩ : Datapath F).tick.2
  ⟨state.cell, path.sa, path.feeder⟩

/-- A tick of the cell, and a clock after it. -/
def sharedTick (state : Borrowed F) : Borrowed F :=
  clockBorrowed (tick ops state)

@[simp] theorem cell_sharedTick (state : Borrowed F) :
    (sharedTick ops state).cell = (tick ops state).cell := rfl

/-! ## One gate -/

/-- While a gate drains the array is clocked twice in a tick. -/
theorem iterate_sharedDraining
    (gate : Gate)
    (cell : GRUCell F)
    (running : cell.isDone = false)
    (draining : cell.phase = gate.draining)
    (path : Datapath F)
    (vec : Vec16 F)
    {ticks : Nat}
    (early : ticks < kGEMMLatency) :
    ∃ bottom,
      (sharedTick ops)^[ticks]
          ⟨{ cell with drainCount := 0 }, (path.ready vec 2).sa,
            (path.ready vec 2).feeder⟩ =
        ⟨{ cell with drainCount := ticks, saBottom := bottom },
          (path.ready vec (2 * ticks + 2)).sa,
          (path.ready vec (2 * ticks + 2)).feeder⟩ := by
  induction ticks with
  | zero => exact ⟨cell.saBottom, rfl⟩
  | succ ticks earlier =>
      obtain ⟨bottom, reached⟩ := earlier (Nat.lt_of_succ_lt early)
      refine ⟨(path.ready vec (2 * ticks + 2)).tick.1, ?_⟩
      have ticked := drainGate_of_lt
        { cell with drainCount := ticks + 1, saBottom := bottom }
        (path.ready vec (2 * ticks + 2)) (gate.latch ops) gate.next early
      rw [Function.iterate_succ_apply', reached, sharedTick,
        tick_draining ops gate _ running draining]
      exact congrArg clockBorrowed ticked

/-- When the cell reads the bottom row, nothing is left of the product. -/
theorem output_late
    {path : Datapath F}
    (empty : ∀ row, path.feeder.delayLines row = [])
    (cleared : path.sa.Cleared)
    (vec : Vec16 F) :
    (path.ready vec 64).tick.1 = 0 := by
  funext lane
  rw [Datapath.output_ready empty cleared, if_neg (by omega)]
  rfl

/-- A gate takes thirty-four ticks, sees zeros and leaves the feeder empty. -/
theorem iterate_sharedGate
    (gate : Gate)
    (state : Borrowed F)
    (running : state.cell.isDone = false)
    (loading : state.cell.phase = gate.loading)
    (empty : ∀ row, state.feeder.delayLines row = []) :
    ((sharedTick ops)^[34] state).cell = latchedGate ops gate state.cell 0 ∧
      ∀ row, ((sharedTick ops)^[34] state).feeder.delayLines row = [] := by
  let path : Datapath F :=
    ⟨state.feeder, state.sa.loadWeights (gate.weightMatrix state.cell)⟩
  let vec := gate.operand state.cell
  let cell : GRUCell F := { state.cell with phase := gate.draining }
  have loaded : sharedTick ops state =
      ⟨{ counted state.cell with phase := gate.settling },
        (path.ready vec 1).sa, (path.ready vec 1).feeder⟩ :=
    congrArg clockBorrowed (tick_loading ops gate state running loading)
  have settled : (sharedTick ops)^[2] state =
      ⟨{ cell with drainCount := 0 }, (path.ready vec 2).sa,
        (path.ready vec 2).feeder⟩ := by
    rw [Function.iterate_succ_apply, Function.iterate_one, loaded]
    exact congrArg clockBorrowed (tick_settling ops gate
      ⟨{ counted state.cell with phase := gate.settling },
        (path.ready vec 1).sa, (path.ready vec 1).feeder⟩ running rfl)
  obtain ⟨bottom, drained⟩ := iterate_sharedDraining ops gate cell running rfl
    path vec (show 31 < kGEMMLatency by decide)
  have read : (sharedTick ops)^[34] state =
      ⟨latchedGate ops gate state.cell 0, (path.ready vec 66).sa,
        (path.ready vec 66).feeder⟩ := by
    have cleared : path.sa.Cleared :=
      state.sa.cleared_loadWeights (gate.weightMatrix state.cell)
    have latched : (path.ready vec 64).tick.1 = 0 :=
      output_late empty cleared vec
    rw [Function.iterate_add_apply (sharedTick ops) 32 2, settled,
      Function.iterate_succ_apply', drained, sharedTick]
    refine (congrArg clockBorrowed (tick_latching ops gate
      { cell with drainCount := 31, saBottom := bottom } running rfl
      (path.ready vec 64) rfl)).trans ?_
    rw [latched]
    cases gate <;> rfl
  rw [read]
  refine ⟨rfl, ?_⟩
  intro row
  exact Datapath.delayLines_ready empty vec (show 15 ≤ 65 by decide) row

/-! ## The whole evaluation -/

/-- On shared hardware the cell reads nothing. -/
theorem runsGates_sharedTick :
    RunsGates ops (sharedTick ops) fun _ _ => 0 :=
  ⟨cell_sharedTick ops, fun gate state running loading empty =>
    iterate_sharedGate ops gate state running loading empty⟩

/-- What an evaluation computes on shared hardware: the GRU equations without
any of the products. -/
def sharedResult (cell : GRUCell F) (hPrev msg : Vec16 F) : Vec16 F :=
  equations ops cell hPrev msg 0 0 0 0

/-- An evaluation takes 137 ticks. -/
theorem iterate_sharedEvaluation
    (cell : GRUCell F)
    (hPrev msg : Vec16 F)
    (sa : SystolicArray F)
    {feeder : ArrayFeeder F}
    (empty : ∀ row, feeder.delayLines row = []) :
    (∀ ticks, ticks < 137 →
      ((sharedTick ops)^[ticks]
        ⟨cell.start hPrev msg, sa, feeder⟩).cell.isDone = false) ∧
    ((sharedTick ops)^[137] ⟨cell.start hPrev msg, sa, feeder⟩).cell.isDone =
      true ∧
    ((sharedTick ops)^[137] ⟨cell.start hPrev msg, sa, feeder⟩).cell.hNew =
      sharedResult ops cell hPrev msg :=
  (runsGates_sharedTick ops).iterate_evaluation cell sa hPrev msg empty

/-! ## Agreement with an evaluation on hardware of its own -/

end GRUCell

end PimGraphs
