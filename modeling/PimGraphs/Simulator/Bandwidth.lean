import Mathlib.Data.Rat.Floor
import PimGraphs.Memory.AddressRegions
import PimGraphs.Simulator.Throughput

/-!
# The bandwidth oracle and the driver of the bindings

The oracle is the number of cycles a number of bytes takes at a fixed rate,
without any memory timing; rates are rational numbers here.  A capped call is never faster, and the sequential
workload of the bindings takes exactly the oracle's cycles and what remains of
one memory latency.
-/

namespace PimGraphs

/-- Cycles for a number of bytes at a fixed rate, in exact arithmetic; nothing
stands for the infinite value.  The source divides in double precision, where a
quotient just above or below a whole number may round to it or past it. -/
def oracleCyclesForBytes (totalBytes : Nat) (bytesPerCycle : ℚ) :
    Option Int :=
  if bytesPerCycle ≤ 0 then none else some ⌈(totalBytes : ℚ) / bytesPerCycle⌉

/-- Cycles for bursts of 64 bytes at `width` of them a cycle. -/
theorem oracleCyclesForBytes_bursts
    {width bursts : Nat}
    (someWidth : 0 < width)
    (someBursts : 0 < bursts) :
    oracleCyclesForBytes (bursts * 64) (64 * width) =
      some (((bursts - 1) / width + 1 : Nat) : Int) := by
  have rate : (0 : ℚ) < 64 * width := by positivity
  rw [oracleCyclesForBytes, if_neg (not_le.mpr rate)]
  congr 1
  have split := Nat.div_add_mod (bursts - 1) width
  have small := Nat.mod_lt (bursts - 1) someWidth
  have above : width * ((bursts - 1) / width) < bursts := by omega
  have below : bursts ≤ ((bursts - 1) / width + 1) * width := by
    rw [Nat.succ_mul, Nat.mul_comm]
    omega
  generalize (bursts - 1) / width = waves at above below
  have strict : (width : ℚ) * waves < bursts := by exact_mod_cast above
  have covered : (bursts : ℚ) ≤ (waves + 1) * width := by exact_mod_cast below
  rw [Int.ceil_eq_iff]
  constructor
  · rw [lt_div_iff₀ rate]
    push_cast
    linarith
  · rw [div_le_iff₀ rate]
    push_cast
    linarith

/-- Clock frequency in hertz of a clock period in nanoseconds. -/
def tckNsToHz (tckNs : ℚ) : ℚ :=
  if tckNs ≤ 0 then 0 else 1000000000 / tckNs

namespace SimulationResult

/-- Gigabytes moved per second of simulated time, in exact arithmetic; the
source rounds each step to double precision. -/
def effectiveGbps (tckNs : ℚ) (result : SimulationResult) : ℚ :=
  if result.memoryCycles = 0 ∨ tckNs ≤ 0 then 0 else
    let seconds := (result.memoryCycles : ℚ) * (tckNs * (1 / 1000000000))
    if seconds ≤ 0 then 0 else
      (result.bytesMoved : ℚ) / seconds / 1000000000

end SimulationResult

namespace AdmissionConfig

variable {M : Type} {config : AdmissionConfig M}

/-- The oracle's rate for the cap is the byte budget of a cycle. -/
theorem bytesPerCycle_eq_tsvLimitPerTick
    (clocked : 0 < config.ramulator.tCK) :
    bytesPerCycleFromTargetGbps config.tsvPeakGbps
        (tckNsToHz config.ramulator.tCK) =
      config.tsvLimitPerTick := by
  rw [bytesPerCycleFromTargetGbps, tckNsToHz, if_neg (not_le.mpr clocked),
    tsvLimitPerTick]
  field_simp

/-- The rounding slack of the budget lets no further byte in. -/
def Exact (config : AdmissionConfig M) : Prop :=
  ∀ bytes : Nat, (bytes : ℚ) ≤ config.tsvBudget →
    (bytes : ℚ) ≤ config.tsvLimitPerTick

/-- A limit of a whole number of bytes is exact. -/
theorem exact_of_limit
    {limit : Nat}
    (whole : config.tsvLimitPerTick = limit) :
    config.Exact := by
  intro bytes fits
  rw [tsvBudget, whole] at fits
  have lessThanOne : (bytes : ℚ) < ((limit + 1 : Nat) : ℚ) := by
    push_cast
    linarith
  rw [whole]
  exact_mod_cast Nat.lt_succ_iff.mp (Nat.cast_lt.mp lessThanOne)

theorem tsvLimitPerTick_pos
    (capped : 0 < config.tsvPeakGbps)
    (clocked : 0 < config.ramulator.tCK) :
    0 < config.tsvLimitPerTick := by
  unfold tsvLimitPerTick
  positivity

end AdmissionConfig

/-- A budget of a whole number of bursts a cycle lets in just as many. -/
theorem Driver.allows_of_limit
    {M : Type}
    {config : AdmissionConfig M}
    {width : Nat}
    (someWidth : 0 < width)
    (capped : 0 < config.tsvPeakGbps)
    (limit : config.tsvLimitPerTick = 64 * width) :
    Driver.Allows config 64 width := by
  have fewer : ((width - 1 : Nat) : ℚ) = width - 1 := Nat.cast_pred someWidth
  constructor
  · exact someWidth
  · rw [AdmissionConfig.overBudget, Bool.and_eq_false_iff,
      decide_eq_false_iff_not, decide_eq_false_iff_not, not_lt, not_lt, limit]
    right
    push_cast [fewer]
    linarith
  · rw [AdmissionConfig.overBudget, Bool.and_eq_true, decide_eq_true_eq,
      decide_eq_true_eq, limit]
    refine ⟨capped, ?_⟩
    push_cast
    linarith

namespace RunState

variable {F M : Type} {config : RunConfig F M}
variable [Zero F] [One F] [Add F] [Sub F] [Mul F] [Div F] [NatCast F]

/-- Where the slack lets no byte in, a cycle admits no more than the limit. -/
theorem tsvBytesAdmitted_cycle_le_limit
    (capped : 0 < config.admission.tsvPeakGbps)
    (clocked : 0 < config.admission.ramulator.tCK)
    (exact : config.admission.Exact)
    (state : RunState F M) :
    ((state.cycle config).driver.tsvBytesAdmitted : ℚ) ≤
      state.driver.tsvBytesAdmitted + config.admission.tsvLimitPerTick := by
  have within := (state.tickComponents config).driver.withinBudget capped
    clocked
  have moves : Moves config.attached.router state.traffic
      (state.tickComponents config).traffic :=
    tickComponents_moves config .refl
  have before : (state.tickComponents config).driver.tsvBytesAdmitted =
      state.driver.tsvBytesAdmitted := moves.tsvBytesAdmitted
  rw [tsvBytesAdmitted_cycle, within.counted, before, Nat.cast_add]
  exact (add_le_add_iff_left _).mpr (exact _ within.fits)

theorem tsvBytesAdmitted_clocked_le
    (config : RunConfig F M)
    (capped : 0 < config.admission.tsvPeakGbps)
    (clocked : 0 < config.admission.ramulator.tCK)
    (exact : config.admission.Exact)
    (state : RunState F M)
    (time : Nat) :
    ((state.clocked config time).driver.tsvBytesAdmitted : ℚ) ≤
      state.driver.tsvBytesAdmitted +
        time * config.admission.tsvLimitPerTick := by
  induction time with
  | zero =>
      rw [Nat.cast_zero, zero_mul, add_zero]
      exact le_refl _
  | succ time inductionHypothesis =>
      have one := tsvBytesAdmitted_cycle_le_limit capped clocked exact
        (state.clocked config time)
      rw [clocked_succ, Nat.cast_succ, add_mul, one_mul, ← add_assoc]
      exact one.trans (add_le_add_left inductionHypothesis _)

end RunState

namespace RamulatorHbmSimulator

open RunState

variable {F M : Type}

/-- A call is no faster than the oracle at the cap, and its effective
bandwidth is no higher than the cap. -/
structure WithinOracle
    (simulator : RamulatorHbmSimulator F M)
    (result : SimulationResult) : Prop where
  cycles : ∃ cycles, oracleCyclesForBytes result.bytesMoved
      (bytesPerCycleFromTargetGbps simulator.admission.tsvPeakGbps
        (tckNsToHz simulator.admission.ramulator.tCK)) = some cycles ∧
    cycles ≤ result.memoryCycles
  bandwidth : result.effectiveGbps simulator.admission.ramulator.tCK ≤
    simulator.admission.tsvPeakGbps

/-- Moving bytes at no more than the limit of every cycle is within the
oracle. -/
theorem withinOracle_of_le
    {simulator : RamulatorHbmSimulator F M}
    (capped : 0 < simulator.admission.tsvPeakGbps)
    (clocked : 0 < simulator.admission.ramulator.tCK)
    {result : SimulationResult}
    (moved : (result.bytesMoved : ℚ) ≤
      result.memoryCycles * simulator.admission.tsvLimitPerTick) :
    simulator.WithinOracle result := by
  have positive := simulator.admission.tsvLimitPerTick_pos capped clocked
  constructor
  · rw [simulator.admission.bytesPerCycle_eq_tsvLimitPerTick clocked,
      oracleCyclesForBytes, if_neg (not_le.mpr positive)]
    refine ⟨_, rfl, ?_⟩
    rw [Int.ceil_le, div_le_iff₀ positive]
    exact_mod_cast moved
  · unfold SimulationResult.effectiveGbps
    split
    case isTrue _ => exact capped.le
    case isFalse running =>
      simp only
      split
      case isTrue _ => exact capped.le
      case isFalse elapsed =>
        rw [not_le] at elapsed
        rw [div_div, div_le_iff₀ (by positivity)]
        refine moved.trans_eq ?_
        rw [AdmissionConfig.tsvLimitPerTick]
        ring

/-! ## The sequential workload of the bindings -/

section Sequential

variable [Zero F] [One F]

/-- A fresh simulator on a given memory, with a cap and the sequential
workload. -/
def sequential16pc
    (ops : FloatOps F)
    (ramulator : Ramulator M)
    (memory : M)
    (burstsPerPc : UInt32)
    (tsvPeakGbps : ℚ) : RamulatorHbmSimulator F M :=
  let simulator := RamulatorHbmSimulator.initial ops { ramulator } memory
  let simulator := { simulator with
    admission := { simulator.admission with tsvPeakGbps } }
  { simulator with
    mux := simulator.mux.loadSequentialWorkload burstsPerPc 64 }

variable (ops : FloatOps F) (ramulator : Ramulator M) (memory : M)
variable (burstsPerPc : UInt32) (tsvPeakGbps : ℚ)

theorem uniform_sequential16pc :
    (sequential16pc ops ramulator memory burstsPerPc
      tsvPeakGbps).mux.Uniform 64 := by
  have empty : PseudoChannelMultiplexer.Uniform (64 : UInt32).toNat {} :=
    fun _ _ member => absurd member List.not_mem_nil
  exact PseudoChannelMultiplexer.Uniform.loadSequentialWorkload empty
    burstsPerPc

theorem pendingCount_sequential16pc :
    (sequential16pc ops ramulator memory burstsPerPc
      tsvPeakGbps).pendingCount = 16 * burstsPerPc.toNat := by
  have each (pcId : PcId) :
      ((sequential16pc ops ramulator memory burstsPerPc
        tsvPeakGbps).mux.port pcId).size = burstsPerPc.toNat := by
    have pending := PseudoChannelMultiplexer.pending_loadSequentialWorkload
      {} burstsPerPc 64 pcId
    rw [PseudoChannelPort.size]
    refine (congrArg List.length pending).trans ?_
    simp [PseudoChannelMultiplexer.port]
  unfold pendingCount PseudoChannelMultiplexer.totalPendingBursts
  rw [Finset.sum_congr rfl fun pcId _ => each pcId]
  simp

/-- Bytes of bursts of one size. -/
theorem pendingBytes_of_uniform
    {size : Nat}
    {mux : PseudoChannelMultiplexer}
    (uniform : mux.Uniform size) :
    Driver.pendingBytes mux = mux.pendingBursts.card * size := by
  have same : mux.pendingBursts.map MemoryBurst.bytes =
      mux.pendingBursts.map fun _ => size := by
    apply Multiset.map_congr rfl
    intro burst member
    obtain ⟨pcId, -, here⟩ := Multiset.mem_sum.mp member
    exact uniform pcId burst here
  rw [Driver.pendingBytes, same, Multiset.map_const', Multiset.sum_replicate,
    smul_eq_mul]

theorem pendingBytes_sequential16pc :
    Driver.pendingBytes (sequential16pc ops ramulator memory burstsPerPc
      tsvPeakGbps).mux = 16 * burstsPerPc.toNat * 64 := by
  rw [pendingBytes_of_uniform (uniform_sequential16pc ops ramulator memory
    burstsPerPc tsvPeakGbps), ← pendingCount_sequential16pc ops ramulator
      memory burstsPerPc tsvPeakGbps]
  rw [PseudoChannelMultiplexer.card_pendingBursts, pendingCount]

variable {ramulator memory}

theorem idle_sequential16pc (fresh : ramulator.held memory = 0) :
    (sequential16pc ops ramulator memory burstsPerPc tsvPeakGbps).Idle :=
  ⟨rfl, fresh⟩

end Sequential

variable [Zero F] [One F] [Add F] [Sub F] [Mul F] [Div F] [NatCast F]

/-! ## Calls against the oracle -/

/-- Where the rounding slack of the budget lets no further byte in, no call
with a positive cap is faster than the oracle at that cap, whatever is
attached. -/
theorem run_withinOracle
    (simulator : RamulatorHbmSimulator F M)
    (capped : 0 < simulator.admission.tsvPeakGbps)
    (clocked : 0 < simulator.admission.ramulator.tCK)
    (exact : simulator.admission.Exact)
    (idle : simulator.Idle)
    (maxMemoryCycles : Nat) :
    simulator.WithinOracle (simulator.run maxMemoryCycles).2 := by
  apply withinOracle_of_le capped clocked
  obtain ⟨count, stops⟩ := exists_stopsAfter simulator.runConfig
    maxMemoryCycles simulator.enter
  have same : simulator.runState maxMemoryCycles = simulator.before count :=
    stops.loop_eq
  have cycles : (simulator.run maxMemoryCycles).2.memoryCycles = count :=
    stops.cycles_eq.trans (Nat.zero_add count)
  have admitted :
      ((simulator.before count).driver.tsvBytesAdmitted : ℚ) ≤
        simulator.enter.driver.tsvBytesAdmitted +
          count * simulator.admission.tsvLimitPerTick :=
    tsvBytesAdmitted_clocked_le simulator.runConfig capped clocked exact
      simulator.enter count
  have start : simulator.enter.driver.tsvBytesAdmitted = 0 := rfl
  rw [start, Nat.cast_zero, zero_add] at admitted
  have balance := (idle.books count).bytes
  rw [cycles]
  change ((simulator.runState maxMemoryCycles).driver.bytesDone : ℚ) ≤ _
  rw [same]
  calc ((simulator.before count).driver.bytesDone : ℚ)
    _ ≤ (simulator.before count).driver.tsvBytesAdmitted := by
      exact_mod_cast (show _ ≤ _ by omega)
    _ ≤ count * simulator.admission.tsvLimitPerTick := admitted

/-- Sequential reads with 512 bytes a cycle. -/
theorem sequentialReads_withinOracle :
    sequentialReads.WithinOracle (sequentialReads.run 100).2 :=
  run_withinOracle sequentialReads (by decide) (by decide)
    (@AdmissionConfig.exact_of_limit _ _ 512 (by decide +kernel)) ⟨rfl, rfl⟩ 100

/-- The function `run_sequential_16pc` of the bindings. -/
def runSequential16pc
    (ops : FloatOps F)
    (ramulator : Ramulator M)
    (memory : M)
    (burstsPerPc : UInt32)
    (maxMemoryCycles : Nat)
    (tsvPeakGbps : ℚ) : SimulationResult :=
  ((sequential16pc ops ramulator memory burstsPerPc tsvPeakGbps).run
    maxMemoryCycles).2

/-- Where not even one burst fits a cycle's budget, nothing is moved. -/
theorem Idle.moves_nothing
    {simulator : RamulatorHbmSimulator F M}
    (idle : simulator.Idle)
    (unattached : simulator.attached = {})
    {size : Nat}
    (uniform : simulator.mux.Uniform size)
    (tooNarrow : simulator.admission.overBudget 0 size = true)
    (maxMemoryCycles : Nat) :
    (simulator.run maxMemoryCycles).2.burstsCompleted = 0 ∧
      (simulator.run maxMemoryCycles).2.bytesMoved = 0 := by
  obtain ⟨count, stops⟩ := exists_stopsAfter simulator.runConfig
    maxMemoryCycles simulator.enter
  have same : simulator.runState maxMemoryCycles = simulator.before count :=
    stops.loop_eq
  have noneIssued :
      issued simulator.runConfig anyBurst simulator.enter count = 0 := by
    have narrow := Latency.issued_le_of_width rfl
      (idle.issued_succ_le unattached uniform
        (show simulator.admission.overBudget (0 * size) size = true by
          rwa [Nat.zero_mul])) count
    rw [Nat.mul_zero] at narrow
    exact Nat.le_zero.mp narrow
  have whereabouts := idle.whereabouts unattached count
  have outstanding := whereabouts.outstanding
  have pending := whereabouts.pending
  have serving := (serving_before unattached count).bytes
  have moved := (idle.books count).bytes
  have counted := whereabouts.counted
  rw [pendingBytes_of_uniform (uniform_before unattached uniform count),
    show Driver.pendingBytes simulator.enter.driver.mux = _ from
      pendingBytes_of_uniform uniform] at serving
  have all : (simulator.before count).driver.mux.pendingBursts.card =
      simulator.enter.driver.mux.pendingBursts.card := by
    rw [show simulator.enter.driver.mux.pendingBursts.card =
      simulator.pendingCount from simulator.mux.card_pendingBursts]
    omega
  rw [all] at serving
  change (simulator.before count).driver.tsvBytesAdmitted + _ = 0 + _
    at serving
  constructor
  · change (simulator.runState maxMemoryCycles).driver.completed = 0
    rw [same]
    omega
  · change (simulator.runState maxMemoryCycles).driver.bytesDone = 0
    rw [same]
    omega

/-- What the bindings return for a number of bursts on each port. -/
structure ServesSequential
    (burstsPerPc : Nat)
    (result : SimulationResult) : Prop where
  burstsCompleted : result.burstsCompleted = 16 * burstsPerPc
  bytesMoved : result.bytesMoved = 16 * burstsPerPc * 64
  tsvBytesAdmitted : result.tsvBytesAdmitted = 16 * burstsPerPc * 64

/-- On a memory that serves every read within a latency and rejects one only
while it serves others, the bindings' run serves its whole workload, if the cap
lets a burst through a cycle; otherwise it serves nothing and never ends. -/
theorem runSequential16pc_serves_or_hangs
    (ops : FloatOps F)
    (ramulator : Ramulator M)
    (memory : M)
    (fresh : ramulator.held memory = 0)
    (latency : Nat)
    (positive : 0 < latency)
    (within : ramulator.FiresWithin latency)
    (willing : ramulator.RejectsOnlyBusy)
    (burstsPerPc : UInt32)
    (tsvPeakGbps : ℚ)
    (maxMemoryCycles : Nat) :
    let config : AdmissionConfig M := { ramulator, tsvPeakGbps }
    let result := runSequential16pc ops ramulator memory burstsPerPc
      maxMemoryCycles tsvPeakGbps
    (config.overBudget 0 64 = false →
        16 * burstsPerPc.toNat * latency ≤ maxMemoryCycles →
          ServesSequential burstsPerPc.toNat result ∧
            result.memoryCycles ≤ 16 * burstsPerPc.toNat * latency) ∧
      (config.overBudget 0 64 = true → 0 < burstsPerPc.toNat →
        result.burstsCompleted = 0 ∧ result.bytesMoved = 0 ∧
          result.memoryCycles = maxMemoryCycles) := by
  intro config result
  have uniform := uniform_sequential16pc ops ramulator memory burstsPerPc
    tsvPeakGbps
  have count := pendingCount_sequential16pc ops ramulator memory burstsPerPc
    tsvPeakGbps
  have bytes := pendingBytes_sequential16pc ops ramulator memory burstsPerPc
    tsvPeakGbps
  have idle := idle_sequential16pc ops burstsPerPc tsvPeakGbps fresh
  constructor
  · intro fits enough
    have servable : (sequential16pc ops ramulator memory burstsPerPc
        tsvPeakGbps).Servable := by
      intro pcId burst member
      rw [Driver.Fits, uniform pcId burst member]
      exact fits
    have stops := idle.stops rfl positive within willing servable
    rw [count] at stops
    have drained := idle.drained rfl enough stops
    exact ⟨⟨drained.burstsCompleted.trans count, drained.bytesMoved.trans
      bytes, drained.tsvBytesAdmitted.trans bytes⟩, drained.memoryCycles⟩
  · intro tooNarrow someBursts
    have nothing := idle.moves_nothing rfl uniform tooNarrow maxMemoryCycles
    refine ⟨nothing.1, nothing.2,
      memoryCycles_of_not_servable rfl ?_ maxMemoryCycles⟩
    intro servable
    have somePending : 0 < (sequential16pc ops ramulator memory burstsPerPc
        tsvPeakGbps).mux.pendingBursts.card := by
      rw [PseudoChannelMultiplexer.card_pendingBursts]
      change 0 < (sequential16pc ops ramulator memory burstsPerPc
        tsvPeakGbps).pendingCount
      omega
    obtain ⟨burst, member⟩ := Multiset.card_pos_iff_exists_mem.mp somePending
    obtain ⟨pcId, -, here⟩ := Multiset.mem_sum.mp member
    have fits := servable pcId burst here
    rw [Driver.Fits, uniform pcId burst here] at fits
    exact Bool.false_ne_true (fits.symm.trans tooNarrow)

/-- Two bursts on each port of a memory of two ticks, with a budget of 512 and
with one of 32 bytes a cycle. -/
theorem runSequential16pc_two_serves_or_hangs :
    let wide := runSequential16pc (FloatOps.atZero : FloatOps ℚ)
      (FixedLatency.ramulator 2) [] 2 100 512
    let narrow := runSequential16pc (FloatOps.atZero : FloatOps ℚ)
      (FixedLatency.ramulator 2) [] 2 100 32
    (ServesSequential 2 wide ∧ wide.memoryCycles ≤ 64) ∧
      narrow.burstsCompleted = 0 ∧ narrow.bytesMoved = 0 ∧
        narrow.memoryCycles = 100 := by
  have served := (runSequential16pc_serves_or_hangs
    (FloatOps.atZero : FloatOps ℚ) (FixedLatency.ramulator 2) [] rfl 2
    (by decide) (FixedLatency.takes 2).within (FixedLatency.rejectsOnlyBusy 2)
    2 512 100).1 (by decide +kernel) (by decide)
  have hangs := (runSequential16pc_serves_or_hangs
    (FloatOps.atZero : FloatOps ℚ) (FixedLatency.ramulator 2) [] rfl 2
    (by decide) (FixedLatency.takes 2).within (FixedLatency.rejectsOnlyBusy 2)
    2 32 100).2 (by decide +kernel) (by decide)
  exact ⟨served, hangs⟩

/-- The oracle's cycles for a call that served `width` bursts a cycle. -/
theorem oracle_of_rate
    {width bursts latency : Nat}
    (someWidth : 0 < width)
    (someBursts : 0 < bursts)
    {bytesPerCycle : ℚ}
    (rate : bytesPerCycle = 64 * width)
    {result : SimulationResult}
    (moved : result.bytesMoved = bursts * 64)
    (taken : result.memoryCycles = (bursts - 1) / width + latency) :
    oracleCyclesForBytes result.bytesMoved bytesPerCycle =
      some ((result.memoryCycles : Int) - (latency - 1)) := by
  rw [rate, moved, taken, oracleCyclesForBytes_bursts someWidth someBursts]
  congr 1
  push_cast
  ring

/-- On a memory that accepts every read and takes a latency for it, with a cap
of a whole number of bursts a cycle, the bindings' run takes the oracle's
cycles and the rest of one latency. -/
theorem runSequential16pc_cycles
    (ops : FloatOps F)
    (ramulator : Ramulator M)
    (memory : M)
    (fresh : ramulator.held memory = 0)
    (accepts : ramulator.NeverRejects)
    (latency : Nat)
    (positive : 0 < latency)
    (takes : ramulator.Takes latency)
    (clocked : 0 < ramulator.tCK)
    (burstsPerPc : UInt32)
    (someBursts : 0 < burstsPerPc.toNat)
    (width : Nat)
    (someWidth : 0 < width)
    (waves : width ≤ 255)
    (maxMemoryCycles : Nat)
    (enough : (16 * burstsPerPc.toNat - 1) / width + latency ≤
      maxMemoryCycles) :
    let tsvPeakGbps : ℚ := 64 * width / ramulator.tCK
    let result := runSequential16pc ops ramulator memory burstsPerPc
      maxMemoryCycles tsvPeakGbps
    ServesSequential burstsPerPc.toNat result ∧
      oracleCyclesForBytes result.bytesMoved
          (bytesPerCycleFromTargetGbps tsvPeakGbps
            (tckNsToHz ramulator.tCK)) =
        some ((result.memoryCycles : Int) - (latency - 1)) := by
  intro tsvPeakGbps result
  have uniform := uniform_sequential16pc ops ramulator memory burstsPerPc
    tsvPeakGbps
  have count := pendingCount_sequential16pc ops ramulator memory burstsPerPc
    tsvPeakGbps
  have bytes := pendingBytes_sequential16pc ops ramulator memory burstsPerPc
    tsvPeakGbps
  have idle := idle_sequential16pc ops burstsPerPc tsvPeakGbps fresh
  have limit : AdmissionConfig.tsvLimitPerTick { ramulator, tsvPeakGbps } =
      64 * width := by
    have perCycle : tsvPeakGbps * ramulator.tCK = 64 * width :=
      div_mul_cancel₀ _ clocked.ne'
    rw [AdmissionConfig.tsvLimitPerTick, ← perCycle]
    ring
  have capped : 0 < tsvPeakGbps := by positivity
  have allows : Driver.Allows { ramulator, tsvPeakGbps } 64 width :=
    Driver.allows_of_limit someWidth capped limit
  have inTime : (sequential16pc ops ramulator memory burstsPerPc
      tsvPeakGbps).uniformCycles latency width ≤ maxMemoryCycles := by
    rwa [uniformCycles, count]
  have drained := idle.drained_uniform rfl uniform accepts rfl positive
    takes.within allows waves inTime
  have cycles := drained.memoryCycles.antisymm
    (idle.uniformCycles_le rfl uniform takes.notBefore allows.noMore
      (by omega) drained.burstsCompleted)
  refine ⟨⟨drained.burstsCompleted.trans count, drained.bytesMoved.trans
    bytes, drained.tsvBytesAdmitted.trans bytes⟩, ?_⟩
  have taken : result.memoryCycles =
      (16 * burstsPerPc.toNat - 1) / width + latency := by
    rw [← count]
    exact cycles
  exact oracle_of_rate someWidth (by omega)
    ((AdmissionConfig.bytesPerCycle_eq_tsvLimitPerTick clocked).trans limit)
    (drained.bytesMoved.trans bytes) taken

/-- Two bursts on each port of a memory of two ticks, eight a cycle. -/
theorem runSequential16pc_two_cycles :
    let tsvPeakGbps : ℚ := 64 * (8 : Nat) / (FixedLatency.ramulator 2).tCK
    let result := runSequential16pc (FloatOps.atZero : FloatOps ℚ)
      (FixedLatency.ramulator 2) [] 2 100 tsvPeakGbps
    ServesSequential (2 : UInt32).toNat result ∧
      oracleCyclesForBytes result.bytesMoved
          (bytesPerCycleFromTargetGbps tsvPeakGbps
            (tckNsToHz (FixedLatency.ramulator 2).tCK)) =
        some ((result.memoryCycles : Int) - ((2 : Nat) - 1)) :=
  runSequential16pc_cycles FloatOps.atZero (FixedLatency.ramulator 2) [] rfl
    (fun _ _ _ => rfl) 2 (by decide) (FixedLatency.takes 2) (by decide) 2
    (by decide) 8 (by decide) (by decide) 100 (by decide)

end RamulatorHbmSimulator

end PimGraphs
