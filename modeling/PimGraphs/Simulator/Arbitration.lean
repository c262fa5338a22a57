import PimGraphs.Memory.Service
import PimGraphs.Simulator.Boundary

/-!
# Admission in waves is round-robin service

With a memory that never rejects, no serialization and bursts of one size, the
waves of a cycle admit from the ports that serving them one by one would pick,
in the same order.  A sweep visits the ports from where the cursor stood at its
start, while the cursor moves with every admission; what carries the argument
is that the ports between the cursor and the next one visited are not ready.
Ports that never run empty are therefore served equally often over any number
of cycles, up to one burst.
-/

namespace PimGraphs

/-- The memory accepts every read. -/
def Ramulator.NeverRejects {M : Type} (ramulator : Ramulator M) : Prop :=
  ∀ memory addr slot, (ramulator.send memory addr slot).isSome = true

namespace PseudoChannelMultiplexer

/-- All pending bursts have one size. -/
def Uniform (size : Nat) (mux : PseudoChannelMultiplexer) : Prop :=
  ∀ pcId, ∀ burst ∈ (mux.port pcId).pending, burst.bytes = size

/-- Bursts have been queued, and nothing else has happened. -/
structure Queues (before after : PseudoChannelMultiplexer) : Prop where
  cursor : after.rrCursor = before.rrCursor
  pending : ∀ pcId, (before.port pcId).pending <+: (after.port pcId).pending

theorem Queues.refl (mux : PseudoChannelMultiplexer) : Queues mux mux :=
  ⟨rfl, fun _ => List.prefix_rfl⟩

theorem Queues.trans
    {first second third : PseudoChannelMultiplexer}
    (earlier : Queues first second)
    (later : Queues second third) :
    Queues first third :=
  ⟨later.cursor.trans earlier.cursor,
    fun pcId => (earlier.pending pcId).trans (later.pending pcId)⟩

theorem Queues.enqueue
    (mux : PseudoChannelMultiplexer)
    (pcId : PcId)
    (burst : MemoryBurst) :
    Queues mux (mux.enqueue pcId burst) := by
  refine ⟨rfl, fun other => ?_⟩
  rw [port_enqueue]
  split
  case isTrue same =>
    rw [same]
    exact List.prefix_append _ _
  case isFalse _ => exact List.prefix_rfl

/-- A port that is ready stays so while bursts are queued. -/
theorem Queues.ready
    {before after : PseudoChannelMultiplexer}
    (queues : Queues before after)
    {pcId : PcId}
    (ready : before.ready pcId = true) :
    after.ready pcId = true := by
  rw [ready_eq_true_iff] at ready ⊢
  exact fun nothing =>
    ready (List.prefix_nil.mp (nothing ▸ queues.pending pcId))

theorem Uniform.enqueue
    {size : Nat}
    {mux : PseudoChannelMultiplexer}
    (uniform : mux.Uniform size)
    (pcId : PcId)
    {queued : MemoryBurst}
    (sameSize : queued.bytes = size) :
    (mux.enqueue pcId queued).Uniform size := by
  intro other burst member
  rw [port_enqueue] at member
  split at member
  case isTrue _ =>
    rcases List.mem_append.mp member with old | new
    · exact uniform pcId burst old
    · rw [List.mem_singleton.mp new]
      exact sameSize
  case isFalse _ => exact uniform other burst member

theorem Uniform.loadSequentialWorkload
    {burstBytes : UInt32}
    {mux : PseudoChannelMultiplexer}
    (uniform : mux.Uniform burstBytes.toNat)
    (burstsPerPc : UInt32) :
    (mux.loadSequentialWorkload burstsPerPc burstBytes).Uniform
      burstBytes.toNat := by
  refine List.foldlRecOn
    (motive := fun mux : PseudoChannelMultiplexer =>
      mux.Uniform burstBytes.toNat) _ _ uniform ?_
  intro mux uniform pcId _
  refine List.foldlRecOn
    (motive := fun mux : PseudoChannelMultiplexer =>
      mux.Uniform burstBytes.toNat) _ _ uniform ?_
  intro mux uniform index _
  exact uniform.enqueue pcId rfl

theorem Uniform.issue
    {size : Nat}
    {mux : PseudoChannelMultiplexer}
    (uniform : mux.Uniform size)
    (pcId : PcId) :
    (mux.issue pcId).Uniform size := by
  intro other burst member
  rw [PseudoChannelMultiplexer.issue, port_advanceAfterIssue, port_setPort]
    at member
  split at member
  case isTrue same => exact uniform pcId burst (List.mem_of_mem_tail member)
  case isFalse _ => exact uniform other burst member

end PseudoChannelMultiplexer

namespace Driver

variable {M : Type}

/-- The ports a cycle's wave loop admits from, in order. -/
def portsAdmitted (config : AdmissionConfig M) (driver : Driver M) :
    List PcId :=
  ((driver.admissionLoop config).driver.history.drop
    driver.history.length).filterMap Event.admittedPort

/-- The wave loop serves the ports as the arbiter picks them, and stops only
when nothing is pending, the byte budget is used up or the waves are. -/
structure ServesInTurn
    (config : AdmissionConfig M)
    (size : Nat)
    (driver : Driver M) : Prop where
  ports : driver.portsAdmitted config =
    (driver.mux.serve (driver.portsAdmitted config).length).1
  mux : (driver.admissionLoop config).driver.mux =
    (driver.mux.serve (driver.portsAdmitted config).length).2
  ends :
    (∀ pcId,
      ((driver.admissionLoop config).driver.mux.port pcId).pending = []) ∨
    config.overBudget ((driver.portsAdmitted config).length * size) size =
      true ∨
    (driver.admissionLoop config).waveCount = WaveLoop.kMaxWavesPerTick

end Driver

namespace WaveLoop

variable {M : Type}

/-- What the wave loop has done since the start of its cycle. -/
structure Serves
    (size : Nat)
    (first : Driver M)
    (ports : List PcId)
    (loop : WaveLoop M) : Prop where
  history : ∃ events, loop.driver.history = first.history ++ events ∧
    events.filterMap Event.admittedPort = ports
  served : first.mux.serve ports.length = (ports, loop.driver.mux)
  used : loop.tsvUsedThisTick = ports.length * size
  uniform : loop.driver.mux.Uniform size

/-- No further burst fits the cycle's budget. -/
def Spent (config : AdmissionConfig M) (size : Nat) (loop : WaveLoop M) :
    Prop :=
  config.overBudget loop.tsvUsedThisTick size = true

/-- Nothing more can be admitted in this cycle. -/
def Stuck (config : AdmissionConfig M) (size : Nat) (loop : WaveLoop M) :
    Prop :=
  (∀ pcId, (loop.driver.mux.port pcId).pending = []) ∨
    loop.Spent config size

/-- A sweep about to visit a port has left no ready one behind the cursor. -/
def Passed
    (config : AdmissionConfig M)
    (size : Nat)
    (loop : WaveLoop M)
    (next : PcId) : Prop :=
  RoundRobin.Skipped loop.driver.mux.ready loop.driver.mux.rrCursor next ∨
    loop.Spent config size

/-- A sweep uses one wave. -/
theorem waveCount_sweep (config : AdmissionConfig M) (loop : WaveLoop M) :
    (loop.sweep config).waveCount = loop.waveCount + 1 := by
  unfold sweep
  apply Sweep.observe_foldl (fun swept : WaveLoop M => swept.waveCount)
  intro swept pcId
  rcases visitPort_cases config swept pcId with
    skipped | ⟨_, _, _, _, _, _, _, admitted⟩
  · rw [skipped]
  · rw [admitted]

section Visits

variable {config : AdmissionConfig M} {size : Nat}
  (accepts : config.ramulator.NeverRejects)
  (parallel : config.serializeStandardSparseReads = false)
include accepts parallel

/-- A visit skips a port, or admits its front burst. -/
theorem visit_cases
    {loop : WaveLoop M}
    (uniform : loop.driver.mux.Uniform size)
    (pcId : PcId) :
    (visitPort config loop pcId = loop ∧
      ((loop.driver.mux.port pcId).pending = [] ∨ loop.Spent config size)) ∨
    ((loop.driver.mux.port pcId).pending ≠ [] ∧ ¬ loop.Spent config size ∧
      ∃ burst memory, burst.bytes = size ∧
        visitPort config loop pcId =
          { loop with
            driver := loop.driver.acceptRead pcId burst memory
            tsvUsedThisTick := loop.tsvUsedThisTick + size
            waveProgress := true }) := by
  unfold visitPort PseudoChannelPort.front
  cases pending : (loop.driver.mux.port pcId).pending with
  | nil => exact Or.inl ⟨rfl, Or.inl rfl⟩
  | cons burst rest =>
      have sameSize : burst.bytes = size :=
        uniform pcId burst (pending ▸ List.mem_cons_self)
      have notSerialized : loop.driver.serialized config burst = false := by
        rw [Driver.serialized, parallel, Bool.false_and, Bool.false_and]
      obtain ⟨memory, sent⟩ := Option.isSome_iff_exists.mp
        (accepts loop.driver.memory burst.addr loop.driver.nextSlot)
      simp only [List.head?_cons, notSerialized, sent, sameSize]
      cases spent : config.overBudget loop.tsvUsedThisTick size with
      | true => exact Or.inl ⟨rfl, Or.inr spent⟩
      | false =>
          refine Or.inr ⟨List.cons_ne_nil _ _, ?_, burst, memory, sameSize, rfl⟩
          rw [Spent, spent]
          exact Bool.false_ne_true

/-- Visiting a port continues the service. -/
theorem Serves.visit
    {first : Driver M}
    {ports : List PcId}
    {loop : WaveLoop M}
    {next : PcId}
    (serves : Serves size first ports loop)
    (passed : loop.Passed config size next) :
    ∃ served, Serves size first served (visitPort config loop next) ∧
      (visitPort config loop next).Passed config size (next + 1) := by
  rcases visit_cases accepts parallel serves.uniform next with
    ⟨same, blocked⟩ | ⟨waiting, affordable, burst, memory, _, admitted⟩
  · rw [same]
    refine ⟨ports, serves, ?_⟩
    rcases blocked with nothing | spent
    · exact passed.imp_left fun skipped =>
        skipped.succ ((loop.driver.mux.ready_eq_false_iff next).mpr nothing)
    · exact Or.inr spent
  · have skipped := passed.resolve_right affordable
    have picked : loop.driver.mux.pickNextRoundRobin = some next :=
      skipped.pick ((loop.driver.mux.ready_eq_true_iff next).mpr waiting)
    obtain ⟨events, grown, admissions⟩ := serves.history
    rw [admitted]
    refine ⟨ports ++ [next],
      ⟨⟨events ++ [.admitted next loop.driver.nextSlot burst], ?_, ?_⟩,
        ?_, ?_, serves.uniform.issue next⟩,
      Or.inl (RoundRobin.skipped_self _ _)⟩
    · rw [← List.append_assoc, ← grown]
      rfl
    · rw [List.filterMap_append, admissions]
      rfl
    · rw [List.length_append]
      exact PseudoChannelMultiplexer.serve_then_pick serves.served picked
    · rw [List.length_append, List.length_singleton, Nat.add_mul, Nat.one_mul]
      exact congrArg (· + size) serves.used

/-- So does visiting some ports in order. -/
theorem Serves.visits
    {first : Driver M}
    (count : Nat)
    {ports : List PcId}
    {loop : WaveLoop M}
    {next : PcId}
    (serves : Serves size first ports loop)
    (passed : loop.Passed config size next) :
    ∃ served, Serves size first served
      ((RoundRobin.consecutive count next).foldl (visitPort config) loop) := by
  induction count generalizing ports loop next with
  | zero => exact ⟨ports, serves⟩
  | succ count inductionHypothesis =>
      obtain ⟨served, continued, stillPassed⟩ :=
        serves.visit accepts parallel passed
      exact inductionHypothesis continued stillPassed

/-- A sweep starts with the port at the cursor. -/
theorem Serves.sweep
    {first : Driver M}
    {ports : List PcId}
    {loop : WaveLoop M}
    (serves : Serves size first ports loop) :
    ∃ served, Serves size first served (loop.sweep config) := by
  unfold WaveLoop.sweep
  rw [RoundRobin.order_eq_consecutive]
  exact Serves.visits accepts parallel 16
    ⟨serves.history, serves.served, serves.used, serves.uniform⟩
    (Or.inl (RoundRobin.skipped_self _ _))

/-- A visit without progress has skipped its port. -/
theorem blocked_of_visit
    {loop : WaveLoop M}
    (uniform : loop.driver.mux.Uniform size)
    (noProgress : loop.waveProgress = false)
    {pcId : PcId}
    (same : visitPort config loop pcId = loop) :
    (loop.driver.mux.port pcId).pending = [] ∨ loop.Spent config size := by
  rcases visit_cases accepts parallel uniform pcId with
    ⟨_, blocked⟩ | ⟨_, _, burst, memory, _, admitted⟩
  · exact blocked
  · rw [same] at admitted
    rw [admitted] at noProgress
    exact Bool.noConfusion noProgress

/-- A sweep without progress leaves nothing that could be admitted. -/
theorem stuck_sweep
    {loop : WaveLoop M}
    (uniform : loop.driver.mux.Uniform size)
    (noProgress : (loop.sweep config).waveProgress = false) :
    (loop.sweep config).Stuck config size := by
  obtain ⟨unchanged, same⟩ := sweep_of_noProgress noProgress
  have stillUniform : (loop.sweep config).driver.mux.Uniform size := by
    rw [unchanged]
    exact uniform
  by_cases spent : (loop.sweep config).Spent config size
  · exact Or.inr spent
  · left
    intro pcId
    exact (blocked_of_visit accepts parallel stillUniform noProgress
      (same pcId)).resolve_right spent

/-- The waves of a cycle serve the ports in turn until they are stuck or have
been used up. -/
theorem Serves.runWaves
    {first : Driver M}
    (fuel : Nat)
    {ports : List PcId}
    {loop : WaveLoop M}
    (serves : Serves size first ports loop)
    (waves : loop.waveCount + fuel = kMaxWavesPerTick)
    (stopped : loop.waveProgress = false → loop.Stuck config size) :
    ∃ served,
      Serves size first served (WaveLoop.runWaves config fuel loop) ∧
      ((WaveLoop.runWaves config fuel loop).Stuck config size ∨
        (WaveLoop.runWaves config fuel loop).waveCount =
          kMaxWavesPerTick) := by
  induction fuel generalizing ports loop with
  | zero => exact ⟨ports, serves, Or.inr waves⟩
  | succ fuel inductionHypothesis =>
      unfold WaveLoop.runWaves
      split
      case isTrue _ =>
        obtain ⟨served, continued⟩ := serves.sweep accepts parallel
        refine inductionHypothesis continued ?_
          (stuck_sweep accepts parallel serves.uniform)
        rw [waveCount_sweep, ← waves]
        omega
      case isFalse ended =>
        refine ⟨ports, serves, Or.inl (stopped ?_)⟩
        by_contra progress
        apply ended
        rw [Bool.not_eq_false] at progress
        rw [progress, Bool.true_and, decide_eq_true_eq, ← waves]
        omega

end Visits

end WaveLoop

namespace Driver

variable {M : Type} {config : AdmissionConfig M} {size : Nat}

/-- A cycle's admission serves the ports in turn. -/
theorem servesInTurn
    (accepts : config.ramulator.NeverRejects)
    (parallel : config.serializeStandardSparseReads = false)
    {driver : Driver M}
    (uniform : driver.mux.Uniform size) :
    driver.ServesInTurn config size := by
  have start : WaveLoop.Serves size driver [] { driver := driver } :=
    ⟨⟨[], (List.append_nil _).symm, rfl⟩, rfl, (Nat.zero_mul size).symm,
      uniform⟩
  obtain ⟨ports, serves, ends⟩ := start.runWaves accepts parallel
    WaveLoop.kMaxWavesPerTick (Nat.zero_add _) (fun stopped =>
      absurd stopped Bool.noConfusion)
  obtain ⟨events, grown, admissions⟩ := serves.history
  have admitted : driver.portsAdmitted config = ports := by
    rw [portsAdmitted, admissionLoop, grown, List.drop_left, admissions]
  have used := serves.used
  refine ⟨?_, ?_, ?_⟩
  · rw [admitted, serves.served]
  · rw [admitted, serves.served]
    rfl
  · rw [admitted, ← used]
    exact or_assoc.mp ends

/-- Serving in turn is granting by the round-robin arbiter. -/
theorem ServesInTurn.grants
    {driver : Driver M}
    (turns : driver.ServesInTurn config size) :
    ∃ snapshots,
      driver.portsAdmitted config =
        RoundRobin.grants driver.mux.rrCursor snapshots ∧
      (driver.admissionLoop config).driver.mux.rrCursor =
        RoundRobin.cursorAfter driver.mux.rrCursor snapshots ∧
      ∀ pcId, (driver.admissionLoop config).driver.mux.ready pcId = true →
        ∀ snapshot ∈ snapshots, snapshot pcId = true := by
  have granted := driver.mux.serve_eq_grants
    (driver.portsAdmitted config).length
  refine ⟨_, turns.ports.trans granted.1, ?_, fun pcId ready => ?_⟩
  · rw [turns.mux]
    exact granted.2
  · rw [turns.mux] at ready
    exact (PseudoChannelMultiplexer.ready_of_mem_snapshots ready).2

/-! ## Many cycles -/

/-- Memory cycles, given by the state in front of each one's wave loop: all
bursts have one size, and between two cycles bursts are only queued. -/
structure Cycles
    (config : AdmissionConfig M)
    (size : Nat)
    (start : Nat → Driver M) : Prop where
  uniform : ∀ time, (start time).mux.Uniform size
  queues : ∀ time, PseudoChannelMultiplexer.Queues
    ((start time).admissionLoop config).driver.mux (start (time + 1)).mux

/-- The ports admitted from in an interval of cycles. -/
def portsDuring
    (config : AdmissionConfig M)
    (start : Nat → Driver M)
    (since count : Nat) : List PcId :=
  (List.range count).flatMap fun time =>
    (start (since + time)).portsAdmitted config

/-- A port stays non-empty throughout an interval of cycles. -/
def StaysReady
    (config : AdmissionConfig M)
    (start : Nat → Driver M)
    (since count : Nat)
    (pcId : PcId) : Prop :=
  ∀ time, time < count →
    ((start (since + time)).admissionLoop config).driver.mux.ready pcId = true

/-- An interval of cycles is one round-robin service. -/
theorem Cycles.grants
    {start : Nat → Driver M}
    (cycles : Cycles config size start)
    (accepts : config.ramulator.NeverRejects)
    (parallel : config.serializeStandardSparseReads = false)
    (since count : Nat) :
    ∃ snapshots,
      portsDuring config start since count =
        RoundRobin.grants (start since).mux.rrCursor snapshots ∧
      (start (since + count)).mux.rrCursor =
        RoundRobin.cursorAfter (start since).mux.rrCursor snapshots ∧
      ∀ pcId, StaysReady config start since count pcId →
        ∀ snapshot ∈ snapshots, snapshot pcId = true := by
  induction count with
  | zero =>
      exact ⟨[], rfl, rfl, fun _ _ _ member =>
        absurd member List.not_mem_nil⟩
  | succ count inductionHypothesis =>
      obtain ⟨earlier, ports, cursor, ready⟩ := inductionHypothesis
      obtain ⟨later, nextPorts, nextCursor, nextReady⟩ :=
        (servesInTurn accepts parallel
          (cycles.uniform (since + count))).grants
      refine ⟨earlier ++ later, ?_, ?_, fun pcId stays => ?_⟩
      · rw [RoundRobin.grants_append, ← cursor, ← ports, ← nextPorts,
          portsDuring, List.range_succ, List.flatMap_append]
        simp only [List.flatMap_cons, List.flatMap_nil, List.append_nil]
        rfl
      · rw [RoundRobin.cursorAfter_append, ← cursor, ← nextCursor]
        exact (cycles.queues (since + count)).cursor
      · refine List.forall_mem_append.mpr ⟨?_, ?_⟩
        · exact ready pcId fun time early =>
            stays time (Nat.lt_succ_of_lt early)
        · exact nextReady pcId (stays count (Nat.lt_succ_self count))

/-- With a memory that never rejects, no serialization and bursts of one size,
every cycle serves the ports in turn, and over any interval of cycles two
ports that stay non-empty are admitted from equally often, up to one burst. -/
theorem cycles_serve_in_turn
    {start : Nat → Driver M}
    (cycles : Cycles config size start)
    (accepts : config.ramulator.NeverRejects)
    (parallel : config.serializeStandardSparseReads = false) :
    (∀ time, (start time).ServesInTurn config size) ∧
      ∀ (since count : Nat) (one other : PcId),
        StaysReady config start since count one →
        StaysReady config start since count other →
        (portsDuring config start since count).count one ≤
          (portsDuring config start since count).count other + 1 := by
  refine ⟨fun time => servesInTurn accepts parallel (cycles.uniform time), ?_⟩
  intro since count one other oneReady otherReady
  obtain ⟨snapshots, ports, -, ready⟩ :=
    cycles.grants accepts parallel since count
  rw [ports]
  exact RoundRobin.count_grants_le_succ _ snapshots fun snapshot member =>
    ⟨ready one oneReady snapshot member, ready other otherReady snapshot member⟩

end Driver

/-! ## The cycles of a call -/

theorem Moves.queues
    {M : Type}
    {attached : Option Nat}
    {first last : Traffic M}
    (moves : Moves attached first last) :
    PseudoChannelMultiplexer.Queues first.2.mux last.2.mux := by
  induction moves with
  | refl => exact .refl _
  | enqueue burst _ inductionHypothesis =>
      exact inductionHypothesis.trans (.enqueue _ _ burst)
  | route _ _ _ _ inductionHypothesis => exact inductionHypothesis
  | deliver ref _ _ inductionHypothesis =>
      apply inductionHypothesis.trans
      unfold Driver.enqueueAll
      refine List.foldlRecOn
        (motive := fun driver : Driver M =>
          PseudoChannelMultiplexer.Queues _ driver.mux) _ _ (.refl _) ?_
      intro driver queues burst _
      exact queues.trans (.enqueue _ _ burst)

namespace RunState

variable {F M : Type} {config : RunConfig F M} {state : RunState F M}

theorem mux_tickMemory [Zero F] [One F] (state : RunState F M) :
    (state.tickMemory config).driver.mux = state.driver.mux := by
  unfold tickMemory
  simp only [foldl_completeSlot_driver, Driver.completeAll_mux]

variable [Zero F] [One F] [Add F] [Sub F] [Mul F] [Div F] [NatCast F]

/-- The driver in front of the wave loop of each cycle. -/
def beforeAdmission
    (config : RunConfig F M)
    (state : RunState F M)
    (time : Nat) : Driver M :=
  (((cycle config)^[time] state).tickComponents config).driver

/-- The main loop only queues bursts between two admissions. -/
theorem cycles_beforeAdmission
    {size : Nat}
    (uniform : ∀ time, (state.beforeAdmission config time).mux.Uniform size) :
    Driver.Cycles config.admission size (state.beforeAdmission config) where
  uniform := uniform
  queues := by
    intro time
    let reached := (cycle config)^[time] state
    have moves : Moves config.attached.router (reached.cycle config).traffic
        ((reached.cycle config).tickComponents config).traffic :=
      tickComponents_moves config .refl
    have queues := moves.queues
    have kept : (reached.cycle config).driver.mux =
        ((reached.tickComponents config).runAdmission config).driver.mux :=
      mux_tickMemory _
    rw [beforeAdmission, beforeAdmission, Function.iterate_succ_apply']
    exact kept ▸ queues

theorem tickComponents_of_unattached
    (unattached : config.attached = {})
    (state : RunState F M) :
    state.tickComponents config = state := by
  have vaults : state.tickVaults config =
      (state, { vectors := 0, valid := false }) := by
    unfold tickVaults
    refine List.foldlRecOn
      (motive := fun progress : RunState F M × TreeInputs F =>
        progress = (state, { vectors := 0, valid := false })) _ _ rfl ?_
    intro progress same vault _
    rw [same, tickVault, unattached]
  simp only [tickComponents, tickDatapath, issuePiccolo, tickRouter,
    tickPsau, tickVertexProgram, unattached, vaults]

/-- With nothing attached the ports keep a common burst size. -/
theorem uniform_beforeAdmission_of_unattached
    {size : Nat}
    (unattached : config.attached = {})
    (uniform : state.driver.mux.Uniform size)
    (time : Nat) :
    (state.beforeAdmission config time).mux.Uniform size := by
  rw [beforeAdmission, tickComponents_of_unattached unattached]
  induction time with
  | zero => exact uniform
  | succ time inductionHypothesis =>
      rw [Function.iterate_succ_apply', cycle,
        tickComponents_of_unattached unattached, mux_tickMemory]
      have issued : WaveLoop.KeptByAdmission config.admission
          fun driver => driver.mux.Uniform size :=
        fun _ pcId _ _ _ uniform _ _ _ => uniform.issue pcId
      exact WaveLoop.kept_admissionLoop issued inductionHypothesis

end RunState

namespace RamulatorHbmSimulator

theorem sequentialReads_serve_in_turn :
    let start := sequentialReads.enter.beforeAdmission sequentialReads.runConfig
    (∀ time, (start time).ServesInTurn sequentialReads.admission 64) ∧
      ∀ (since count : Nat) (one other : PcId),
        Driver.StaysReady sequentialReads.admission start since count one →
        Driver.StaysReady sequentialReads.admission start since count other →
        (Driver.portsDuring sequentialReads.admission start since count).count
            one ≤
          (Driver.portsDuring sequentialReads.admission start since
            count).count other + 1 := by
  have empty : PseudoChannelMultiplexer.Uniform (64 : UInt32).toNat {} :=
    fun _ _ member => absurd member List.not_mem_nil
  have loaded : sequentialReads.enter.driver.mux.Uniform 64 :=
    PseudoChannelMultiplexer.Uniform.loadSequentialWorkload empty 2
  have cycles : Driver.Cycles sequentialReads.runConfig.admission 64
      (sequentialReads.enter.beforeAdmission sequentialReads.runConfig) :=
    RunState.cycles_beforeAdmission
      (RunState.uniform_beforeAdmission_of_unattached rfl loaded)
  exact Driver.cycles_serve_in_turn cycles (fun _ _ _ => rfl) rfl

end RamulatorHbmSimulator

end PimGraphs
