import PimGraphs.Simulator.Defs

/-!
# The main loop as iterated cycles

A call executes cycles while its test finds work, so the state it leaves the
loop in is an iterate of `cycle`, and either the budget is spent or the test
has failed there.
-/

namespace PimGraphs

namespace RunState

variable {F M : Type}
variable [Zero F] [One F] [Add F] [Sub F] [Mul F] [Div F] [NatCast F]
variable (config : RunConfig F M)

@[simp] theorem cycles_cycle (state : RunState F M) :
    (state.cycle config).cycles = state.cycles + 1 := rfl

theorem cycles_iterate
    (count : Nat)
    (state : RunState F M) :
    ((cycle config)^[count] state).cycles = state.cycles + count := by
  induction count generalizing state with
  | zero => rfl
  | succ count inductionHypothesis =>
      rw [Function.iterate_succ_apply, inductionHypothesis, cycles_cycle]
      omega

theorem loop_of_not_hasWork
    {state : RunState F M}
    (stopped : state.hasWork config = false)
    (budget : Nat) :
    state.loop config budget = state := by
  cases budget with
  | zero => rfl
  | succ budget => simp [loop, stopped]

theorem loop_succ_of_hasWork
    {state : RunState F M}
    (working : state.hasWork config = true)
    (budget : Nat) :
    state.loop config (budget + 1) =
      (state.cycle config).loop config budget := by
  simp [loop, working]

/-- A loop may be cut anywhere. -/
theorem loop_add
    (first second : Nat)
    (state : RunState F M) :
    state.loop config (first + second) =
      (state.loop config first).loop config second := by
  induction first generalizing state with
  | zero => rw [Nat.zero_add]; rfl
  | succ first inductionHypothesis =>
      cases working : state.hasWork config with
      | true =>
          rw [Nat.add_right_comm, loop_succ_of_hasWork config working,
            loop_succ_of_hasWork config working, inductionHypothesis]
      | false =>
          rw [loop_of_not_hasWork config working,
            loop_of_not_hasWork config working,
            loop_of_not_hasWork config working]

/-- Where and why the loop stops. -/
structure StopsAfter
    (state : RunState F M)
    (budget count : Nat) : Prop where
  count_le : count ≤ budget
  loop_eq : state.loop config budget = (cycle config)^[count] state
  working : ∀ earlier < count,
    ((cycle config)^[earlier] state).hasWork config = true
  stopped : count < budget →
    ((cycle config)^[count] state).hasWork config = false

theorem exists_stopsAfter
    (budget : Nat)
    (state : RunState F M) :
    ∃ count, StopsAfter config state budget count := by
  induction budget generalizing state with
  | zero => exact ⟨0, le_rfl, rfl, by simp, by simp⟩
  | succ budget inductionHypothesis =>
      cases working : state.hasWork config with
      | false =>
          refine ⟨0, Nat.zero_le _, ?_, by simp, fun _ => working⟩
          exact loop_of_not_hasWork config working _
      | true =>
          obtain ⟨count, stops⟩ := inductionHypothesis (state.cycle config)
          refine ⟨count + 1, Nat.succ_le_succ stops.count_le, ?_, ?_, ?_⟩
          · rw [loop_succ_of_hasWork config working, stops.loop_eq]
            rfl
          · intro earlier bound
            cases earlier with
            | zero => exact working
            | succ earlier =>
                exact stops.working earlier (Nat.lt_of_succ_lt_succ bound)
          · intro bound
            exact stops.stopped (Nat.lt_of_succ_lt_succ bound)

/-- A loop that finds work throughout executes its whole budget. -/
theorem loop_of_working
    {state : RunState F M}
    {budget : Nat}
    (working : ∀ earlier < budget,
      ((cycle config)^[earlier] state).hasWork config = true) :
    state.loop config budget = (cycle config)^[budget] state := by
  obtain ⟨count, stops⟩ := exists_stopsAfter config budget state
  rcases Nat.lt_or_ge count budget with early | full
  · have stopped := stops.stopped early
    rw [working count early] at stopped
    contradiction
  · rw [stops.loop_eq, Nat.le_antisymm stops.count_le full]

variable {config}

/-- The cycle count says how many cycles were executed. -/
theorem StopsAfter.cycles_eq
    {state : RunState F M}
    {budget count : Nat}
    (stops : StopsAfter config state budget count) :
    (state.loop config budget).cycles = state.cycles + count := by
  rw [stops.loop_eq, cycles_iterate]

/-- A shorter loop executes the same cycles, as far as its budget goes. -/
theorem StopsAfter.loop_of_le
    {state : RunState F M}
    {budget count : Nat}
    (stops : StopsAfter config state budget count)
    {shorter : Nat}
    (bound : shorter ≤ count) :
    state.loop config shorter = (cycle config)^[shorter] state :=
  loop_of_working config fun earlier before =>
    stops.working earlier (Nat.lt_of_lt_of_le before bound)

end RunState

namespace RamulatorHbmSimulator

variable {F M : Type}
variable [Zero F] [One F] [Add F] [Sub F] [Mul F] [Div F] [NatCast F]

/-- One more cycle of budget executes one more cycle, if there is work. -/
theorem runState_succ
    (simulator : RamulatorHbmSimulator F M)
    (cycles : Nat) :
    simulator.runState (cycles + 1) =
      if (simulator.runState cycles).hasWork simulator.runConfig then
        (simulator.runState cycles).cycle simulator.runConfig
      else simulator.runState cycles := by
  rw [runState, RunState.loop_add]
  rfl

/-- Where the test has failed, the call stays. -/
theorem runState_of_not_hasWork
    {simulator : RamulatorHbmSimulator F M}
    {cycles : Nat}
    (stopped : (simulator.runState cycles).hasWork simulator.runConfig =
      false)
    {later : Nat}
    (bound : cycles ≤ later) :
    simulator.runState later = simulator.runState cycles := by
  obtain ⟨rest, rfl⟩ := Nat.exists_eq_add_of_le bound
  rw [runState, RunState.loop_add]
  exact RunState.loop_of_not_hasWork _ stopped rest

end RamulatorHbmSimulator

end PimGraphs
