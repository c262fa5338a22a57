import Mathlib.Algebra.Order.Field.Rat
import PimGraphs.Simulator.Arbitration
import PimGraphs.Simulator.Loop

/-!
# The byte budget of the through-silicon vias

Within a memory cycle every admitted burst is charged to the cycle's budget,
over all waves; a burst that would exceed the budget waits.  So the bytes
admitted in a call are at most its cycles times the budget, and only admitted
bytes are moved.
-/

namespace PimGraphs

namespace AdmissionConfig

variable {M : Type} {config : AdmissionConfig M}

/-- What one cycle may admit, with the rounding slack of the source. -/
def tsvBudget (config : AdmissionConfig M) : ℚ :=
  config.tsvLimitPerTick + 1 / 1000000

theorem tsvBudget_nonneg
    (capped : 0 < config.tsvPeakGbps)
    (clocked : 0 < config.ramulator.tCK) :
    0 ≤ config.tsvBudget := by
  have billion : (0 : ℚ) ≤ 1000000000 := by decide
  have million : (0 : ℚ) ≤ 1000000 := by decide
  have slack : (0 : ℚ) ≤ 1 / 1000000 := div_nonneg zero_le_one million
  have perCycle : 0 ≤ config.ramulator.tCK / 1000000000 :=
    div_nonneg clocked.le billion
  exact add_nonneg (mul_nonneg (mul_nonneg capped.le billion) perCycle) slack

/-- A burst that is not held back fits the budget. -/
theorem le_tsvBudget_of_overBudget
    (capped : 0 < config.tsvPeakGbps)
    {used size : Nat}
    (allowed : config.overBudget used size = false) :
    ((used + size : Nat) : ℚ) ≤ config.tsvBudget := by
  simp only [overBudget, capped, decide_true, Bool.true_and,
    decide_eq_false_iff_not, not_lt] at allowed
  rw [Nat.cast_add]
  exact allowed

end AdmissionConfig

namespace Driver

variable {M : Type}

/-- Sizes of the bursts admitted in a list of events, added up. -/
def bytesAdmitted (events : List Event) : Nat :=
  ((events.filterMap Event.admission).map fun entry => entry.2.bytes).sum

/-- What happens in the wave loop of a cycle. -/
def admissionEvents (config : AdmissionConfig M) (driver : Driver M) :
    List Event :=
  (driver.admissionLoop config).driver.history.drop driver.history.length

/-- The bursts a cycle admits over all its waves are charged to the cycle and
to the call, and fit the budget. -/
structure WithinBudget
    (config : AdmissionConfig M)
    (driver : Driver M) : Prop where
  charged : (driver.admissionLoop config).tsvUsedThisTick =
    bytesAdmitted (driver.admissionEvents config)
  counted : (driver.admissionLoop config).driver.tsvBytesAdmitted =
    driver.tsvBytesAdmitted + bytesAdmitted (driver.admissionEvents config)
  fits : (bytesAdmitted (driver.admissionEvents config) : ℚ) ≤
    config.tsvBudget

@[simp] theorem bytesAdmitted_append (earlier later : List Event) :
    bytesAdmitted (earlier ++ later) =
      bytesAdmitted earlier + bytesAdmitted later := by
  rw [bytesAdmitted, List.filterMap_append, List.map_append, List.sum_append]
  rfl

end Driver

namespace WaveLoop

open Driver

variable {M : Type} {config : AdmissionConfig M}

/-- The accounts of a cycle's wave loop. -/
structure Charged
    (config : AdmissionConfig M)
    (first : Driver M)
    (loop : WaveLoop M) : Prop where
  history : ∃ events, loop.driver.history = first.history ++ events ∧
    bytesAdmitted events = loop.tsvUsedThisTick
  counted : loop.driver.tsvBytesAdmitted =
    first.tsvBytesAdmitted + loop.tsvUsedThisTick
  fits : (loop.tsvUsedThisTick : ℚ) ≤ config.tsvBudget

theorem Charged.visitPort
    (capped : 0 < config.tsvPeakGbps)
    {first : Driver M}
    {loop : WaveLoop M}
    (charged : Charged config first loop)
    (pcId : PcId) :
    Charged config first (visitPort config loop pcId) := by
  rcases visitPort_cases config loop pcId with
    skipped | ⟨burst, rest, memory, _, _, allowed, _, admitted⟩
  · rw [skipped]
    exact charged
  · obtain ⟨events, grown, sizes⟩ := charged.history
    have counted := charged.counted
    rw [admitted]
    constructor
    · refine ⟨events ++ [.admitted pcId loop.driver.nextSlot burst], ?_, ?_⟩
      · rw [← List.append_assoc, ← grown]
        rfl
      · rw [bytesAdmitted_append, sizes]
        rfl
    · simp only [Driver.acceptRead]
      omega
    · exact config.le_tsvBudget_of_overBudget capped allowed

theorem Charged.sweep
    (capped : 0 < config.tsvPeakGbps)
    {first : Driver M}
    {loop : WaveLoop M}
    (charged : Charged config first loop) :
    Charged config first (loop.sweep config) := by
  unfold WaveLoop.sweep
  refine List.foldlRecOn (motive := Charged config first) _ _
    ⟨charged.history, charged.counted, charged.fits⟩ ?_
  intro loop charged pcId _
  exact charged.visitPort capped pcId

theorem Charged.runWaves
    (capped : 0 < config.tsvPeakGbps)
    (fuel : Nat)
    {first : Driver M}
    {loop : WaveLoop M}
    (charged : Charged config first loop) :
    Charged config first (loop.runWaves config fuel) := by
  induction fuel generalizing loop with
  | zero => exact charged
  | succ fuel inductionHypothesis =>
      rw [WaveLoop.runWaves]
      split
      · exact inductionHypothesis (charged.sweep capped)
      · exact charged

end WaveLoop

namespace Driver

variable {M : Type} {config : AdmissionConfig M}

/-- Every cycle stays within its budget. -/
theorem withinBudget
    (capped : 0 < config.tsvPeakGbps)
    (clocked : 0 < config.ramulator.tCK)
    (driver : Driver M) :
    driver.WithinBudget config := by
  have start : WaveLoop.Charged config driver { driver := driver } :=
    { history := ⟨[], (List.append_nil _).symm, rfl⟩
      counted := rfl
      fits := config.tsvBudget_nonneg capped clocked }
  have charged := start.runWaves capped WaveLoop.kMaxWavesPerTick
  obtain ⟨events, grown, sizes⟩ := charged.history
  have sameEvents : driver.admissionEvents config = events := by
    rw [admissionEvents, admissionLoop, grown, List.drop_left]
  constructor
  · rw [sameEvents, sizes]
    rfl
  · rw [sameEvents, sizes]
    exact charged.counted
  · rw [sameEvents, sizes]
    exact charged.fits

end Driver

/-! ## Whole calls -/

namespace Driver

variable {M : Type}

@[simp] theorem tsvBytesAdmitted_enqueueAll
    (via : Option Nat)
    (bursts : List MemoryBurst)
    (driver : Driver M) :
    (driver.enqueueAll via bursts).tsvBytesAdmitted =
      driver.tsvBytesAdmitted := by
  unfold enqueueAll
  apply Sweep.observe_foldl
    (fun reached : Driver M => reached.tsvBytesAdmitted)
  intro reached burst
  rfl

@[simp] theorem tsvBytesAdmitted_complete
    (driver : Driver M)
    (slot : Nat) :
    (driver.complete slot).1.tsvBytesAdmitted = driver.tsvBytesAdmitted := by
  rw [complete_eq]
  split
  · rfl
  · simp only
    split <;> rfl

@[simp] theorem tsvBytesAdmitted_completeAll
    (driver : Driver M)
    (fired : List Nat) :
    (driver.completeAll fired).tsvBytesAdmitted = driver.tsvBytesAdmitted := by
  unfold completeAll
  apply Sweep.observe_foldl
    (fun reached : Driver M => reached.tsvBytesAdmitted)
  intro reached slot
  apply tsvBytesAdmitted_complete

end Driver

/-- Nothing is admitted before the wave loop. -/
theorem Moves.tsvBytesAdmitted
    {M : Type}
    {attached : Option Nat}
    {first last : Traffic M}
    (moves : Moves attached first last) :
    last.2.tsvBytesAdmitted = first.2.tsvBytesAdmitted := by
  induction moves with
  | refl => rfl
  | enqueue _ _ inductionHypothesis => exact inductionHypothesis
  | route _ _ _ _ inductionHypothesis => exact inductionHypothesis
  | deliver _ _ _ inductionHypothesis =>
      exact (Driver.tsvBytesAdmitted_enqueueAll _ _ _).trans
        inductionHypothesis

namespace RunState

variable {F M : Type} {config : RunConfig F M}
variable [Zero F] [One F] [Add F] [Sub F] [Mul F] [Div F] [NatCast F]

/-- A cycle admits what its wave loop admits. -/
theorem tsvBytesAdmitted_cycle (state : RunState F M) :
    (state.cycle config).driver.tsvBytesAdmitted =
      ((state.tickComponents config).driver.admissionLoop
        config.admission).driver.tsvBytesAdmitted := by
  unfold cycle tickMemory
  simp only [foldl_completeSlot_driver, Driver.tsvBytesAdmitted_completeAll]
  rfl

/-- Each cycle adds at most its budget. -/
theorem tsvBytesAdmitted_cycle_le
    (capped : 0 < config.admission.tsvPeakGbps)
    (clocked : 0 < config.admission.ramulator.tCK)
    (state : RunState F M) :
    ((state.cycle config).driver.tsvBytesAdmitted : ℚ) ≤
      state.driver.tsvBytesAdmitted + config.admission.tsvBudget := by
  have within := (state.tickComponents config).driver.withinBudget capped
    clocked
  have moves : Moves config.attached.router state.traffic
      (state.tickComponents config).traffic :=
    tickComponents_moves config .refl
  have before : (state.tickComponents config).driver.tsvBytesAdmitted =
      state.driver.tsvBytesAdmitted := moves.tsvBytesAdmitted
  rw [tsvBytesAdmitted_cycle, within.counted, before, Nat.cast_add]
  exact (add_le_add_iff_left _).mpr within.fits

/-- So do the cycles of a loop, together. -/
theorem tsvBytesAdmitted_iterate_le
    (capped : 0 < config.admission.tsvPeakGbps)
    (clocked : 0 < config.admission.ramulator.tCK)
    (count : Nat)
    (state : RunState F M) :
    (((cycle config)^[count] state).driver.tsvBytesAdmitted : ℚ) ≤
      state.driver.tsvBytesAdmitted + count * config.admission.tsvBudget := by
  induction count with
  | zero =>
      rw [Nat.cast_zero, zero_mul, add_zero]
      exact le_refl _
  | succ count inductionHypothesis =>
      have one := tsvBytesAdmitted_cycle_le capped clocked
        ((cycle config)^[count] state)
      rw [Function.iterate_succ_apply', Nat.cast_succ, add_mul, one_mul,
        ← add_assoc]
      exact one.trans (add_le_add_left inductionHypothesis _)

end RunState

namespace RamulatorHbmSimulator

variable {F M : Type}
variable [Zero F] [One F] [Add F] [Sub F] [Mul F] [Div F] [NatCast F]

/-- A call moves no more than it admits, and admits no more than its budget:
in each cycle, and over all its cycles. -/
structure WithinCap
    (simulator : RamulatorHbmSimulator F M)
    (maxMemoryCycles : Nat) : Prop where
  cycles : ∀ time, (simulator.enter.beforeAdmission simulator.runConfig
    time).WithinBudget simulator.admission
  moved : (simulator.run maxMemoryCycles).2.bytesMoved ≤
    (simulator.run maxMemoryCycles).2.tsvBytesAdmitted
  admitted : ((simulator.run maxMemoryCycles).2.tsvBytesAdmitted : ℚ) ≤
    (simulator.run maxMemoryCycles).2.memoryCycles *
      simulator.admission.tsvBudget

/-- With a positive cap no call is faster than the cap. -/
theorem run_withinCap
    (simulator : RamulatorHbmSimulator F M)
    (capped : 0 < simulator.admission.tsvPeakGbps)
    (clocked : 0 < simulator.admission.ramulator.tCK)
    (idle : simulator.Idle)
    (maxMemoryCycles : Nat) :
    simulator.WithinCap maxMemoryCycles := by
  have books := simulator.runState_books idle maxMemoryCycles
  obtain ⟨count, stops⟩ := RunState.exists_stopsAfter simulator.runConfig
    maxMemoryCycles simulator.enter
  have cycles : (simulator.runState maxMemoryCycles).cycles = count :=
    stops.cycles_eq.trans (Nat.zero_add count)
  have admitted := @RunState.tsvBytesAdmitted_iterate_le F M
    simulator.runConfig _ _ _ _ _ _ _ capped clocked count simulator.enter
  rw [← stops.loop_eq] at admitted
  constructor
  · intro time
    exact Driver.withinBudget capped clocked _
  · have balance := books.bytes
    show (simulator.runState maxMemoryCycles).driver.bytesDone ≤
      (simulator.runState maxMemoryCycles).driver.tsvBytesAdmitted
    omega
  · show ((simulator.runState maxMemoryCycles).driver.tsvBytesAdmitted : ℚ) ≤
      ((simulator.runState maxMemoryCycles).cycles : ℚ) * _
    rw [cycles]
    exact admitted.trans_eq (zero_add _)

/-- The budget lets eight of the 32 reads into a cycle. -/
theorem sequentialReads_withinCap : sequentialReads.WithinCap 5 :=
  run_withinCap sequentialReads (by decide) (by decide) ⟨rfl, rfl⟩ 5

end RamulatorHbmSimulator

end PimGraphs
