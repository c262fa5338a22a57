import PimGraphs.Simulator.Budget
import PimGraphs.Simulator.Maximality
import PimGraphs.Simulator.Timing

/-!
# Draining the ports

A call with nothing attached serves the bursts its ports hold.  On a memory
that serves every read in bounded time, and rejects one only while it serves
others, the call ends within one latency for each burst, or never, if one of
the bursts alone exceeds the byte budget of a cycle.
-/

namespace PimGraphs

theorem PseudoChannelMultiplexer.card_pendingBursts
    (mux : PseudoChannelMultiplexer) :
    mux.pendingBursts.card = mux.totalPendingBursts := by
  simp [pendingBursts, totalPendingBursts, PseudoChannelPort.size]

namespace Driver

variable {M : Type} {config : AdmissionConfig M} {first last : Driver M}

/-- A burst fits the byte budget of a cycle, if nothing else is charged. -/
def Fits (config : AdmissionConfig M) (burst : MemoryBurst) : Prop :=
  config.overBudget 0 burst.bytes = false

theorem fits_of_allowed
    {used : Nat}
    {burst : MemoryBurst}
    (allowed : config.overBudget used burst.bytes = false) :
    Fits config burst := by
  unfold Fits
  rw [AdmissionConfig.overBudget, Bool.and_eq_false_iff] at allowed ⊢
  refine allowed.imp_right fun fits => ?_
  rw [decide_eq_false_iff_not, not_lt] at fits ⊢
  refine le_trans ?_ fits
  rw [Nat.cast_zero, zero_add]
  exact le_add_of_nonneg_left (Nat.cast_nonneg used)

/-- The bursts admitted from a port are taken from its front. -/
theorem Admits.fifo (admits : Admits config first last) (pcId : PcId) :
    first.history.filterMap (Event.admittedOn pcId) ++
        (first.mux.port pcId).pending =
      last.history.filterMap (Event.admittedOn pcId) ++
        (last.mux.port pcId).pending := by
  induction admits with
  | refl => rfl
  | @acceptRead driver port burst rest _ memory front _ _ _ _
      inductionHypothesis =>
      rw [inductionHypothesis, Driver.acceptRead, List.filterMap_append]
      simp only [PseudoChannelMultiplexer.port_advanceAfterIssue,
        PseudoChannelMultiplexer.port_setPort]
      by_cases same : pcId = port
      · rw [same, if_pos rfl, PseudoChannelPort.pending_pop, front]
        simp [Event.admittedOn]
      · rw [if_neg same]
        simp [Event.admittedOn, Ne.symm same]

/-- Taking the front burst of a port takes it from what is pending. -/
theorem pendingBursts_acceptRead
    {driver : Driver M}
    {pcId : PcId}
    {burst : MemoryBurst}
    {rest : List MemoryBurst}
    (front : (driver.mux.port pcId).pending = burst :: rest)
    (memory : M) :
    burst ::ₘ (driver.acceptRead pcId burst memory).mux.pendingBursts =
      driver.mux.pendingBursts := by
  have moved := driver.mux.pendingBursts_setPort pcId
    (driver.mux.port pcId).pop
  rw [PseudoChannelPort.pending_pop, front, List.tail_cons,
    ← Multiset.cons_coe, ← Multiset.singleton_add, ← add_assoc] at moved
  rw [← Multiset.singleton_add, add_comm]
  exact add_right_cancel moved

/-- Every admission uses a slot for one of the pending bursts. -/
theorem Admits.slots (admits : Admits config first last) :
    last.nextSlot + last.mux.pendingBursts.card =
      first.nextSlot + first.mux.pendingBursts.card := by
  induction admits with
  | refl => rfl
  | @acceptRead driver pcId burst _ _ memory front _ _ _ _
      inductionHypothesis =>
      have taken := congrArg Multiset.card
        (pendingBursts_acceptRead front memory)
      rw [Multiset.card_cons] at taken
      change driver.nextSlot + 1 + _ = _
      omega

/-- Bytes of all pending bursts. -/
def pendingBytes (mux : PseudoChannelMultiplexer) : Nat :=
  (mux.pendingBursts.map MemoryBurst.bytes).sum

/-- The bytes of an admitted burst are charged. -/
theorem Admits.bytes (admits : Admits config first last) :
    last.tsvBytesAdmitted + pendingBytes last.mux =
      first.tsvBytesAdmitted + pendingBytes first.mux := by
  induction admits with
  | refl => rfl
  | @acceptRead driver pcId burst _ _ memory front _ _ _ _
      inductionHypothesis =>
      have taken := congrArg (fun bursts => (bursts.map MemoryBurst.bytes).sum)
        (pendingBursts_acceptRead front memory)
      simp only [Multiset.map_cons, Multiset.sum_cons] at taken
      rw [← inductionHypothesis]
      unfold pendingBytes
      change driver.tsvBytesAdmitted + burst.bytes + _ = _
      omega

theorem Admits.nextSlot_le (admits : Admits config first last) :
    first.nextSlot ≤ last.nextSlot :=
  (Evolves.refl.admits admits).continues.nextSlot_le

/-- An oversized burst is never admitted. -/
theorem Admits.oversized
    (admits : Admits config first last)
    {pcId : PcId}
    {burst : MemoryBurst}
    (member : burst ∈ (first.mux.port pcId).pending)
    (oversized : ¬ Fits config burst) :
    burst ∈ (last.mux.port pcId).pending := by
  induction admits with
  | refl => exact member
  | @acceptRead driver port front rest _ memory isFront _ allowed _ _
      inductionHypothesis =>
      simp only [Driver.acceptRead,
        PseudoChannelMultiplexer.port_advanceAfterIssue,
        PseudoChannelMultiplexer.port_setPort]
      by_cases same : pcId = port
      · rw [same, if_pos rfl, PseudoChannelPort.pending_pop, isFront]
        rw [same, isFront] at inductionHypothesis
        rcases List.mem_cons.mp inductionHypothesis with first | later
        · rw [first] at oversized
          exact absurd (fits_of_allowed allowed) oversized
        · exact later
      · rw [if_neg same]
        exact inductionHypothesis

/-- A sweep with progress has used a slot. -/
theorem nextSlot_lt_of_progress
    (loop : WaveLoop M)
    (progress : (loop.sweep config).waveProgress = true) :
    loop.driver.nextSlot < (loop.sweep config).driver.nextSlot := by
  have turn : loop.driver.nextSlot + (loop.sweep config).waveProgress.toNat ≤
      (loop.sweep config).driver.nextSlot := by
    unfold WaveLoop.sweep
    refine List.foldlRecOn (motive := fun reached : WaveLoop M =>
      loop.driver.nextSlot + reached.waveProgress.toNat ≤
        reached.driver.nextSlot) _ _ le_rfl ?_
    intro reached before pcId _
    rcases WaveLoop.visitPort_cases config reached pcId with
      skipped | ⟨burst, rest, memory, _, _, _, _, admitted⟩
    · rw [skipped]
      exact before
    · rw [admitted]
      exact Nat.succ_le_succ ((Nat.le_add_right _ _).trans before)
  rw [progress] at turn
  exact turn

/-- The first wave is always made. -/
theorem admissionLoop_eq (driver : Driver M) :
    driver.admissionLoop config =
      (WaveLoop.sweep config { driver := driver }).runWaves config 255 := by
  unfold admissionLoop
  rw [show WaveLoop.kMaxWavesPerTick = 255 + 1 from rfl, WaveLoop.runWaves]
  exact if_pos rfl

/-- When nothing is in flight, a pending burst that fits gets some burst
admitted. -/
theorem admits_of_quiet
    (willing : config.ramulator.RejectsOnlyBusy)
    {driver : Driver M}
    (quiet : config.ramulator.held driver.memory = 0)
    (notSparse : driver.standardSparseInflight = 0)
    {pcId : PcId}
    {burst : MemoryBurst}
    (isFront : (driver.mux.port pcId).front = some burst)
    (fits : Fits config burst) :
    driver.nextSlot < (driver.admissionLoop config).driver.nextSlot := by
  rw [admissionLoop_eq]
  have rest : Admits config
      (WaveLoop.sweep config { driver := driver }).driver
      ((WaveLoop.sweep config { driver := driver }).runWaves config
        255).driver :=
    Admits.runWaves 255 _ .refl
  refine lt_of_lt_of_le ?_ rest.nextSlot_le
  apply nextSlot_lt_of_progress { driver := driver }
  by_contra stuck
  rw [Bool.not_eq_true] at stuck
  have blocked := WaveLoop.maximal_sweep stuck pcId burst
  rw [(WaveLoop.sweep_of_noProgress stuck).1] at blocked
  rcases blocked isFront with serialized | tooBig | rejected
  · simp [Driver.serialized, notSparse] at serialized
  · exact absurd tooBig (by rw [fits]; exact Bool.false_ne_true)
  · exact willing _ _ _ rejected quiet

theorem admittedOn_completeAll
    (pcId : PcId)
    (driver : Driver M)
    (fired : List Nat) :
    (driver.completeAll fired).history.filterMap (Event.admittedOn pcId) =
      driver.history.filterMap (Event.admittedOn pcId) := by
  unfold Driver.completeAll
  apply Sweep.observe_foldl (fun reached : Driver M =>
    reached.history.filterMap (Event.admittedOn pcId))
  intro reached slot
  cases found : reached.inflight.lookup slot with
  | none => simp [Driver.complete_eq, found]
  | some request =>
      rw [Driver.complete_history found, List.filterMap_append,
        filterMap_admittedOn_completionEvents, List.append_nil]

end Driver

namespace RunState

variable {F M : Type} {config : RunConfig F M} {state : RunState F M}

/-- What a call with nothing attached has done with the bursts it found. -/
structure Serving (initial driver : Driver M) : Prop where
  slots : driver.nextSlot + driver.mux.pendingBursts.card =
    initial.nextSlot + initial.mux.pendingBursts.card
  bytes : driver.tsvBytesAdmitted + Driver.pendingBytes driver.mux =
    initial.tsvBytesAdmitted + Driver.pendingBytes initial.mux
  fifo : ∀ pcId, driver.history.filterMap (Event.admittedOn pcId) ++
      (driver.mux.port pcId).pending =
    initial.history.filterMap (Event.admittedOn pcId) ++
      (initial.mux.port pcId).pending

theorem Serving.admits
    {initial first last : Driver M}
    (serving : Serving initial first)
    (admits : Driver.Admits config.admission first last) :
    Serving initial last where
  slots := admits.slots.trans serving.slots
  bytes := admits.bytes.trans serving.bytes
  fifo := fun pcId => (admits.fifo pcId).symm.trans (serving.fifo pcId)

/-- With nothing attached the loop goes on while bursts are pending or in
flight. -/
theorem hasWork_of_unattached
    (unattached : config.attached = {})
    (state : RunState F M) :
    state.hasWork config = false ↔
      state.driver.mux.pendingBursts = 0 ∧
        state.driver.outstandingRequests = 0 := by
  have noCore : state.vpuBusy config = false := by
    simp [vpuBusy, unattached]
  have noPiccolo : state.piccoloBusy config = false := by
    simp [piccoloBusy, unattached]
  have noProgram : state.programBusy config = false := by
    simp [programBusy, unattached]
  rw [hasWork, noCore, noPiccolo, noProgram,
    PseudoChannelMultiplexer.pendingBursts_eq_zero_iff,
    ← PseudoChannelMultiplexer.totalPendingBursts_eq_zero_iff]
  simp [Nat.pos_iff_ne_zero]

variable [Zero F] [One F] [Add F] [Sub F] [Mul F] [Div F] [NatCast F]

/-- With nothing attached a cycle is an admission and a tick of the memory. -/
theorem loadedDriver_of_unattached
    (unattached : config.attached = {})
    (state : RunState F M) :
    state.loadedDriver config =
      (state.driver.admissionLoop config.admission).driver := by
  rw [loadedDriver, tickComponents_of_unattached unattached]
  rfl

theorem mux_cycle (state : RunState F M) :
    (state.cycle config).driver.mux = (state.loadedDriver config).mux := by
  rw [driver_cycle, Driver.completeAll_mux]

theorem nextSlot_cycle (state : RunState F M) :
    (state.cycle config).driver.nextSlot =
      (state.loadedDriver config).nextSlot := by
  rw [driver_cycle]
  unfold Driver.completeAll
  apply Sweep.observe_foldl (fun reached : Driver M => reached.nextSlot)
  intro reached slot
  apply Driver.complete_nextSlot

theorem Serving.cycle
    {initial : Driver M}
    (unattached : config.attached = {})
    (serving : Serving initial state.driver) :
    Serving initial (state.cycle config).driver := by
  have loaded : Serving initial (state.loadedDriver config) := by
    rw [loadedDriver_of_unattached unattached]
    exact serving.admits (Driver.admits_admissionLoop _ _)
  constructor
  · rw [nextSlot_cycle, mux_cycle]
    exact loaded.slots
  · rw [mux_cycle, driver_cycle, Driver.tsvBytesAdmitted_completeAll]
    exact loaded.bytes
  · intro pcId
    rw [mux_cycle, driver_cycle, Driver.admittedOn_completeAll]
    exact loaded.fifo pcId

theorem Serving.clocked
    (unattached : config.attached = {})
    (state : RunState F M)
    (time : Nat) :
    Serving state.driver (state.clocked config time).driver := by
  induction time with
  | zero => exact ⟨rfl, rfl, fun _ => rfl⟩
  | succ time inductionHypothesis =>
      rw [clocked_succ]
      exact inductionHypothesis.cycle unattached

end RunState

namespace RamulatorHbmSimulator

open RunState

variable {F M : Type} [Zero F] [One F] [Add F] [Sub F] [Mul F] [Div F]
variable [NatCast F] {simulator : RamulatorHbmSimulator F M} {latency : Nat}

/-- Bursts waiting on the ports. -/
def pendingCount (simulator : RamulatorHbmSimulator F M) : Nat :=
  simulator.mux.totalPendingBursts

/-- Every pending burst alone fits the byte budget of a cycle. -/
def Servable (simulator : RamulatorHbmSimulator F M) : Prop :=
  ∀ pcId, ∀ burst ∈ (simulator.mux.port pcId).pending,
    Driver.Fits simulator.admission burst

/-- A call has served everything its ports held, within the given number of
cycles. -/
structure Drained
    (simulator : RamulatorHbmSimulator F M)
    (cycles maxMemoryCycles : Nat) : Prop where
  memoryCycles : (simulator.run maxMemoryCycles).2.memoryCycles ≤ cycles
  burstsCompleted : (simulator.run maxMemoryCycles).2.burstsCompleted =
    simulator.pendingCount
  bytesMoved : (simulator.run maxMemoryCycles).2.bytesMoved =
    Driver.pendingBytes simulator.mux
  tsvBytesAdmitted : (simulator.run maxMemoryCycles).2.tsvBytesAdmitted =
    Driver.pendingBytes simulator.mux
  /-- Each port's bursts have been admitted in order. -/
  fifo : ∀ pcId, (simulator.runState
      maxMemoryCycles).driver.history.filterMap (Event.admittedOn pcId) =
    (simulator.mux.port pcId).pending
  ports : ∀ pcId,
    ((simulator.run maxMemoryCycles).1.mux.port pcId).pending = []
  inflight : (simulator.run maxMemoryCycles).1.inflight = []

/-- A call ends where its test first fails. -/
theorem exists_end
    (simulator : RamulatorHbmSimulator F M)
    {time maxMemoryCycles : Nat}
    (bound : time ≤ maxMemoryCycles)
    (stopped : (simulator.before time).hasWork simulator.runConfig = false) :
    ∃ count ≤ time,
      simulator.runState maxMemoryCycles = simulator.before count ∧
      (simulator.run maxMemoryCycles).2.memoryCycles = count ∧
      (simulator.before count).hasWork simulator.runConfig = false := by
  obtain ⟨count, stops⟩ := exists_stopsAfter simulator.runConfig
    maxMemoryCycles simulator.enter
  have early : count ≤ time := by
    by_contra late
    have working := stops.working time (Nat.not_le.mp late)
    rw [show (cycle simulator.runConfig)^[time] simulator.enter =
      simulator.before time from rfl, stopped] at working
    exact Bool.false_ne_true working
  refine ⟨count, early, stops.loop_eq,
    stops.cycles_eq.trans (Nat.zero_add count), ?_⟩
  rcases Nat.lt_or_ge count maxMemoryCycles with before | full
  · exact stops.stopped before
  · rw [show count = time by omega]
    exact stopped

theorem serving_before
    (unattached : simulator.attached = {})
    (time : Nat) :
    Serving simulator.enter.driver (simulator.before time).driver := by
  have unattachedConfig : simulator.runConfig.attached = {} := unattached
  exact Serving.clocked unattachedConfig simulator.enter time

theorem hasWork_before
    (unattached : simulator.attached = {})
    (time : Nat) :
    (simulator.before time).hasWork simulator.runConfig = false ↔
      (simulator.before time).driver.mux.pendingBursts = 0 ∧
        (simulator.before time).driver.outstandingRequests = 0 := by
  have unattachedConfig : simulator.runConfig.attached = {} := unattached
  exact hasWork_of_unattached unattachedConfig _

/-- While bursts are pending, a cycle that begins with nothing in flight
admits one. -/
theorem Idle.issues
    (idle : simulator.Idle)
    (unattached : simulator.attached = {})
    (willing : simulator.admission.ramulator.RejectsOnlyBusy)
    (servable : simulator.Servable)
    {time : Nat}
    (pending : (simulator.before time).driver.mux.pendingBursts ≠ 0)
    (quiet : (simulator.before time).driver.outstandingRequests = 0) :
    (simulator.before time).driver.nextSlot <
      (simulator.before (time + 1)).driver.nextSlot := by
  have books := idle.books time
  have noneInFlight : (simulator.before time).driver.inFlightBursts = [] :=
    List.length_eq_zero_iff.mp (books.outstanding.symm.trans quiet)
  rw [Ne, PseudoChannelMultiplexer.pendingBursts_eq_zero_iff,
    not_forall] at pending
  obtain ⟨pcId, waiting⟩ := pending
  obtain ⟨burst, rest, front⟩ := List.exists_cons_of_ne_nil waiting
  have serving := serving_before unattached time
  have fits : Driver.Fits simulator.admission burst := by
    apply servable pcId
    have fifo := serving.fifo pcId
    rw [front] at fifo
    have whole : (simulator.mux.port pcId).pending = _ := fifo.symm
    rw [whole]
    exact List.mem_append_right _ List.mem_cons_self
  have next : (simulator.before (time + 1)).driver.nextSlot =
      ((simulator.before time).driver.admissionLoop
        simulator.admission).driver.nextSlot := by
    rw [before, clocked_succ, nextSlot_cycle,
      loadedDriver_of_unattached unattached]
    rfl
  rw [next]
  have isFront : ((simulator.before time).driver.mux.port pcId).front =
      some burst := by
    rw [PseudoChannelPort.front, front]
    rfl
  refine Driver.admits_of_quiet willing ?_ ?_ isFront fits
  · rw [books.held, noneInFlight]
    rfl
  · rw [books.sparse, noneInFlight]
    rfl

/-- Bursts of every kind. -/
def anyBurst : MemoryBurst → Bool := fun _ => true

/-- Where the bursts of a call with nothing attached are in front of a
cycle. -/
structure Whereabouts
    (simulator : RamulatorHbmSimulator F M)
    (time : Nat) : Prop where
  slots : (simulator.before time).driver.nextSlot = simulator.nextSlot +
    issued simulator.runConfig anyBurst simulator.enter time
  pending : issued simulator.runConfig anyBurst simulator.enter time +
      (simulator.before time).driver.mux.pendingBursts.card =
    simulator.pendingCount
  outstanding : completed simulator.runConfig anyBurst simulator.enter time +
      (simulator.before time).driver.outstandingRequests =
    issued simulator.runConfig anyBurst simulator.enter time
  counted : (simulator.before time).driver.completed =
    completed simulator.runConfig anyBurst simulator.enter time

theorem Idle.whereabouts
    (idle : simulator.Idle)
    (unattached : simulator.attached = {})
    (time : Nat) :
    simulator.Whereabouts time := by
  have issuedAll :
      issued simulator.runConfig anyBurst simulator.enter time =
        (simulator.before time).driver.admissions.length := by
    unfold issued anyBurst
    rw [List.countP_true]
  have completedAll :
      completed simulator.runConfig anyBurst simulator.enter time =
        (simulator.before time).driver.completions.length := by
    unfold completed anyBurst
    rw [List.countP_true]
  have accounts := (idle.balanced time).accounts
  have books := idle.books time
  have slots := (serving_before unattached time).slots
  have whole : simulator.enter.driver.mux.pendingBursts.card =
      simulator.pendingCount := simulator.mux.card_pendingBursts
  have used : (simulator.before time).driver.nextSlot = simulator.nextSlot +
      (simulator.before time).driver.admissions.length :=
    accounts.nextSlot_eq
  constructor
  · rw [issuedAll, used]
  · rw [issuedAll]
    change (simulator.before time).driver.nextSlot +
        (simulator.before time).driver.mux.pendingBursts.card =
      simulator.nextSlot + _ at slots
    omega
  · rw [issuedAll, completedAll]
    have once := books.once.length_eq
    rw [List.length_append, ← books.outstanding] at once
    exact once.symm
  · rw [completedAll]
    have once := books.once.length_eq
    rw [List.length_append, ← books.outstanding, ← books.admitted] at once
    exact Nat.add_right_cancel once

/-- Bursts that each fit a cycle's budget are served within a latency each. -/
theorem Idle.stops
    (idle : simulator.Idle)
    (unattached : simulator.attached = {})
    (positive : 0 < latency)
    (within : simulator.admission.ramulator.FiresWithin latency)
    (willing : simulator.admission.ramulator.RejectsOnlyBusy)
    (servable : simulator.Servable) :
    (simulator.before (simulator.pendingCount * latency)).hasWork
      simulator.runConfig = false := by
  have isPrompt := idle.isPrompt positive within anyBurst
  have busy (time : Nat)
      (notAll : issued simulator.runConfig anyBurst simulator.enter time <
        simulator.pendingCount)
      (quiet : completed simulator.runConfig anyBurst simulator.enter time =
        issued simulator.runConfig anyBurst simulator.enter time) :
      issued simulator.runConfig anyBurst simulator.enter time <
        issued simulator.runConfig anyBurst simulator.enter (time + 1) := by
    have now := idle.whereabouts unattached time
    have next := idle.whereabouts unattached (time + 1)
    have nowPending := now.pending
    have nowOutstanding := now.outstanding
    have somePending : (simulator.before time).driver.mux.pendingBursts ≠ 0 :=
      by
        intro none
        rw [none, Multiset.card_zero] at nowPending
        omega
    have issues := idle.issues unattached willing servable somePending
      (by omega)
    rw [now.slots, next.slots] at issues
    omega
  have done := isPrompt.completed_of_busy busy
  have last := idle.whereabouts unattached (simulator.pendingCount * latency)
  have lastPending := last.pending
  have lastOutstanding := last.outstanding
  refine (hasWork_before unattached _).mpr ⟨Multiset.card_eq_zero.mp ?_, ?_⟩
  · omega
  · omega

/-- A call that has stopped has served everything. -/
theorem Idle.drained
    (idle : simulator.Idle)
    (unattached : simulator.attached = {})
    {time maxMemoryCycles : Nat}
    (bound : time ≤ maxMemoryCycles)
    (stopped : (simulator.before time).hasWork simulator.runConfig = false) :
    simulator.Drained time maxMemoryCycles := by
  obtain ⟨count, early, same, cycles, ended⟩ :=
    simulator.exists_end bound stopped
  obtain ⟨nonePending, noneOutstanding⟩ :=
    (hasWork_before unattached count).mp ended
  have books := idle.books count
  have serving := serving_before unattached count
  have whereabouts := idle.whereabouts unattached count
  have ports := (PseudoChannelMultiplexer.pendingBursts_eq_zero_iff _).mp
    nonePending
  have noneInFlight : (simulator.before count).driver.inFlightBursts = [] :=
    List.length_eq_zero_iff.mp (books.outstanding.symm.trans noneOutstanding)
  have admitted : (simulator.before count).driver.tsvBytesAdmitted =
      Driver.pendingBytes simulator.mux := by
    have bytes := serving.bytes
    rw [Driver.pendingBytes, nonePending] at bytes
    exact bytes.trans (Nat.zero_add _)
  have completedAll : (simulator.before count).driver.completed =
      simulator.pendingCount := by
    have pending := whereabouts.pending
    have outstanding := whereabouts.outstanding
    rw [nonePending, Multiset.card_zero] at pending
    rw [noneOutstanding] at outstanding
    rw [whereabouts.counted]
    omega
  constructor
  case memoryCycles => exact cycles.trans_le early
  case burstsCompleted =>
    show (simulator.runState maxMemoryCycles).driver.completed = _
    rw [same]
    exact completedAll
  case bytesMoved =>
    show (simulator.runState maxMemoryCycles).driver.bytesDone = _
    have moved := books.bytes
    rw [noneInFlight] at moved
    rw [same]
    exact moved.trans admitted
  case tsvBytesAdmitted =>
    show (simulator.runState maxMemoryCycles).driver.tsvBytesAdmitted = _
    rw [same]
    exact admitted
  case fifo =>
    intro pcId
    have fifo := serving.fifo pcId
    rw [ports pcId, List.append_nil] at fifo
    rw [same]
    exact fifo
  case ports =>
    intro pcId
    show ((simulator.runState maxMemoryCycles).driver.mux.port pcId).pending =
      []
    rw [same]
    exact ports pcId
  case inflight =>
    have noRequests : (simulator.before count).driver.inflight = [] :=
      List.map_eq_nil_iff.mp noneInFlight
    show (simulator.runState maxMemoryCycles).driver.inflight.map _ = []
    rw [same, noRequests]
    rfl

/-- A burst that exceeds the budget of a cycle is never admitted, and the loop
waits for it. -/
theorem hasWork_of_oversized
    (unattached : simulator.attached = {})
    {pcId : PcId}
    {burst : MemoryBurst}
    (member : burst ∈ (simulator.mux.port pcId).pending)
    (oversized : ¬ Driver.Fits simulator.admission burst)
    (time : Nat) :
    (simulator.before time).hasWork simulator.runConfig = true := by
  have stays : burst ∈ ((simulator.before time).driver.mux.port
      pcId).pending := by
    induction time with
    | zero => exact member
    | succ time inductionHypothesis =>
        rw [before, clocked_succ, mux_cycle,
          loadedDriver_of_unattached unattached]
        exact (Driver.admits_admissionLoop _ _).oversized inductionHypothesis
          oversized
  rw [← Bool.not_eq_false, hasWork_before unattached]
  rintro ⟨nonePending, -⟩
  rw [PseudoChannelMultiplexer.pendingBursts_eq_zero_iff] at nonePending
  rw [nonePending pcId] at stays
  exact List.not_mem_nil stays

/-- A call that finds such a burst spends its whole budget of cycles. -/
theorem memoryCycles_of_not_servable
    (unattached : simulator.attached = {})
    (unservable : ¬ simulator.Servable)
    (maxMemoryCycles : Nat) :
    (simulator.run maxMemoryCycles).2.memoryCycles = maxMemoryCycles := by
  unfold Servable at unservable
  push Not at unservable
  obtain ⟨pcId, burst, member, oversized⟩ := unservable
  have always : simulator.runState maxMemoryCycles =
      simulator.before maxMemoryCycles :=
    loop_of_working simulator.runConfig fun earlier _ =>
      hasWork_of_oversized unattached member oversized earlier
  show (simulator.runState maxMemoryCycles).cycles = maxMemoryCycles
  rw [always]
  exact (cycles_iterate _ _ _).trans (Nat.zero_add _)

/-- With nothing attached, on a memory that serves every read within a latency
and rejects one only while it serves others, a call serves everything its
ports hold, in at most one latency for each burst; unless one of the bursts
exceeds the byte budget of a cycle, which makes every call spend its whole
budget of cycles. -/
theorem run_drains_or_hangs
    (simulator : RamulatorHbmSimulator F M)
    (unattached : simulator.attached = {})
    (idle : simulator.Idle)
    (latency : Nat)
    (positive : 0 < latency)
    (within : simulator.admission.ramulator.FiresWithin latency)
    (willing : simulator.admission.ramulator.RejectsOnlyBusy)
    (maxMemoryCycles : Nat) :
    (simulator.Servable →
        simulator.pendingCount * latency ≤ maxMemoryCycles →
          simulator.Drained (simulator.pendingCount * latency)
            maxMemoryCycles) ∧
      (¬ simulator.Servable →
        (simulator.run maxMemoryCycles).2.memoryCycles = maxMemoryCycles) := by
  constructor
  · intro servable enough
    exact idle.drained unattached enough
      (idle.stops unattached positive within willing servable)
  · intro unservable
    exact memoryCycles_of_not_servable unattached unservable maxMemoryCycles

/-- Two reads of 1024 bytes on every port: none of them fits a cycle. -/
def oversizedReads : RamulatorHbmSimulator ℚ (List (Nat × Nat)) :=
  { sequentialReads with
    mux := PseudoChannelMultiplexer.loadSequentialWorkload {} 2 1024 }

theorem sequentialReads_drain_oversizedReads_hang :
    sequentialReads.Drained (sequentialReads.pendingCount * 2) 100 ∧
      (oversizedReads.run 100).2.memoryCycles = 100 := by
  have servable : sequentialReads.Servable := by
    unfold Servable Driver.Fits
    decide +kernel
  have unservable : ¬ oversizedReads.Servable := by
    unfold Servable Driver.Fits
    decide +kernel
  constructor
  · exact (run_drains_or_hangs sequentialReads rfl ⟨rfl, rfl⟩ 2 (by decide)
      (FixedLatency.takes 2).within (FixedLatency.rejectsOnlyBusy 2) 100).1
        servable (by decide)
  · exact (run_drains_or_hangs oversizedReads rfl ⟨rfl, rfl⟩ 2 (by decide)
      (FixedLatency.takes 2).within (FixedLatency.rejectsOnlyBusy 2) 100).2
        unservable

end RamulatorHbmSimulator

end PimGraphs
