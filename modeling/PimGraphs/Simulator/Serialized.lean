import PimGraphs.Simulator.Throughput

/-!
# One sparse read at a time

With the serialization knob on, a read of at least 64 bytes without a callback
of its own is admitted only when no other one is in flight.  So such reads take
a memory latency each, whatever else goes on; and a call that finds nothing
else takes just that.
-/

namespace PimGraphs

namespace Driver

variable {M : Type}

/-- Completing reads admits none. -/
theorem admissions_completeAll (driver : Driver M) (fired : List Nat) :
    (driver.completeAll fired).admissions = driver.admissions := by
  unfold Driver.completeAll
  apply Sweep.observe_foldl (fun reached : Driver M => reached.admissions)
  intro reached slot
  cases found : reached.inflight.lookup slot with
  | none => simp [Driver.complete_eq, found]
  | some request =>
      rw [admissions, complete_history found, List.filterMap_append,
        filterMap_admission_completionEvents, List.append_nil]
      rfl

/-- An admitted burst was admitted from some port. -/
theorem exists_admittedOn
    {driver : Driver M}
    {entry : Nat × MemoryBurst}
    (admitted : entry ∈ driver.admissions) :
    ∃ pcId, entry.2 ∈ driver.history.filterMap (Event.admittedOn pcId) := by
  obtain ⟨event, member, same⟩ := List.mem_filterMap.mp admitted
  cases event with
  | admitted pcId slot burst =>
      obtain rfl := Option.some.inj same
      exact ⟨pcId, List.mem_filterMap.mpr ⟨_, member, if_pos rfl⟩⟩
  | _ => exact absurd same (Option.some_ne_none _).symm

end Driver

namespace RamulatorHbmSimulator

open RunState

variable {F M : Type} [Zero F] [One F] [Add F] [Sub F] [Mul F] [Div F]
variable [NatCast F] {simulator : RamulatorHbmSimulator F M} {latency : Nat}

/-- What is admitted in a cycle is admitted before the memory's tick. -/
theorem admissions_before_succ
    (simulator : RamulatorHbmSimulator F M)
    (time : Nat) :
    (simulator.before (time + 1)).driver.admissions =
      ((simulator.before time).loadedDriver simulator.runConfig).admissions := by
  rw [before, clocked_succ, driver_cycle, Driver.admissions_completeAll]
  rfl

/-- At most one sparse read is issued beyond those completed. -/
theorem Idle.issued_sparse_succ_le
    (idle : simulator.Idle)
    (serialize : simulator.admission.serializeStandardSparseReads = true)
    (time : Nat) :
    issued simulator.runConfig MemoryBurst.isStandardSparseRead
        simulator.enter (time + 1) ≤
      completed simulator.runConfig MemoryBurst.isStandardSparseRead
        simulator.enter time + 1 := by
  have loaded : Balanced simulator.runConfig simulator.enter.driver
      ((simulator.before time).loadedDriver simulator.runConfig) :=
    (idle.balanced time).tickComponents.runAdmission
  have books := loaded.accounts.books loaded.held idle.inflight_nil
  have once := books.once.countP_eq fun entry => entry.2.isStandardSparseRead
  have atMostOne := books.serialized serialize
  rw [books.sparse] at atMostOne
  rw [List.countP_append] at once
  have issuedNow : issued simulator.runConfig MemoryBurst.isStandardSparseRead
      simulator.enter (time + 1) =
      ((simulator.before time).loadedDriver
        simulator.runConfig).admissions.countP fun entry =>
          entry.2.isStandardSparseRead :=
    congrArg (List.countP _) (admissions_before_succ simulator time)
  have completedNow : completed simulator.runConfig
      MemoryBurst.isStandardSparseRead simulator.enter time =
      ((simulator.before time).loadedDriver
        simulator.runConfig).completions.countP fun entry =>
          entry.2.isStandardSparseRead :=
    congrArg (List.countP _)
      (completions_loadedDriver (simulator.before time)).symm
  rw [issuedNow, completedNow]
  change List.countP _ (Driver.admissions _) =
    List.countP _ (Driver.completions _) + _ at once
  omega

/-- Sparse reads a call has completed. -/
def sparseCompleted
    (simulator : RamulatorHbmSimulator F M)
    (maxMemoryCycles : Nat) : Nat :=
  (simulator.runState maxMemoryCycles).driver.completions.countP fun entry =>
    entry.2.isStandardSparseRead

/-- With the serialization knob on, each sparse read that a call completes
takes it the memory's latency, whatever is attached. -/
theorem run_serializes
    (simulator : RamulatorHbmSimulator F M)
    (idle : simulator.Idle)
    (serialize : simulator.admission.serializeStandardSparseReads = true)
    (latency : Nat)
    (notBefore : simulator.admission.ramulator.FiresNotBefore latency)
    (maxMemoryCycles : Nat) :
    simulator.sparseCompleted maxMemoryCycles * latency ≤
      (simulator.run maxMemoryCycles).2.memoryCycles := by
  obtain ⟨count, stops⟩ := exists_stopsAfter simulator.runConfig
    maxMemoryCycles simulator.enter
  have cycles : (simulator.run maxMemoryCycles).2.memoryCycles = count :=
    stops.cycles_eq.trans (Nat.zero_add count)
  have same : simulator.runState maxMemoryCycles = simulator.before count :=
    stops.loop_eq
  rw [sparseCompleted, same, cycles]
  exact (idle.isSlow notBefore
    MemoryBurst.isStandardSparseRead).completed_mul_le
      (idle.issued_sparse_succ_le serialize) count

theorem serializedReads_serializes :
    serializedReads.sparseCompleted 100 * 2 ≤
      (serializedReads.run 100).2.memoryCycles :=
  run_serializes serializedReads ⟨rfl, rfl⟩ rfl 2
    (FixedLatency.takes 2).notBefore 100

/-- Every pending burst is a sparse read. -/
def AllSparse (simulator : RamulatorHbmSimulator F M) : Prop :=
  ∀ pcId, ∀ burst ∈ (simulator.mux.port pcId).pending,
    burst.isStandardSparseRead = true

/-- With nothing attached only pending bursts complete. -/
theorem Idle.sparse_of_completed
    (idle : simulator.Idle)
    (unattached : simulator.attached = {})
    (allSparse : simulator.AllSparse)
    {time : Nat}
    {entry : Nat × MemoryBurst}
    (completes : entry ∈ (simulator.before time).driver.completions) :
    entry.2.isStandardSparseRead = true := by
  obtain ⟨pcId, taken⟩ := Driver.exists_admittedOn
    ((idle.mem_admissions time).mpr (Or.inl completes))
  have fifo := (serving_before unattached time).fifo pcId
  have whole : (simulator.mux.port pcId).pending = _ := fifo.symm
  apply allSparse pcId
  rw [whole]
  exact List.mem_append_left _ taken

/-- A call that finds only sparse reads serves them one after the other. -/
theorem run_serialized
    (simulator : RamulatorHbmSimulator F M)
    (unattached : simulator.attached = {})
    (idle : simulator.Idle)
    (serialize : simulator.admission.serializeStandardSparseReads = true)
    (latency : Nat)
    (positive : 0 < latency)
    (takes : simulator.admission.ramulator.Takes latency)
    (willing : simulator.admission.ramulator.RejectsOnlyBusy)
    (allSparse : simulator.AllSparse)
    (servable : simulator.Servable)
    (maxMemoryCycles : Nat)
    (enough : simulator.pendingCount * latency ≤ maxMemoryCycles) :
    simulator.Drained (simulator.pendingCount * latency) maxMemoryCycles ∧
      (simulator.run maxMemoryCycles).2.memoryCycles =
        simulator.pendingCount * latency := by
  have drained := idle.drained unattached enough
    (idle.stops unattached positive takes.within willing servable)
  refine ⟨drained, Nat.le_antisymm drained.memoryCycles ?_⟩
  obtain ⟨count, stops⟩ := exists_stopsAfter simulator.runConfig
    maxMemoryCycles simulator.enter
  have same : simulator.runState maxMemoryCycles = simulator.before count :=
    stops.loop_eq
  have all : simulator.sparseCompleted maxMemoryCycles =
      simulator.pendingCount := by
    have counted := (idle.whereabouts unattached count).counted
    have done : (simulator.runState maxMemoryCycles).driver.completed =
        simulator.pendingCount := drained.burstsCompleted
    rw [same, counted] at done
    rw [sparseCompleted, same, ← done]
    apply List.countP_congr
    intro entry completes
    simp [idle.sparse_of_completed unattached allSparse completes, anyBurst]
  have cycles : (simulator.run maxMemoryCycles).2.memoryCycles = count :=
    stops.cycles_eq.trans (Nat.zero_add count)
  rw [← all, sparseCompleted, same, cycles]
  exact (idle.isSlow takes.notBefore
    MemoryBurst.isStandardSparseRead).completed_mul_le
      (idle.issued_sparse_succ_le serialize) count

theorem serializedReads_serialized :
    serializedReads.Drained (serializedReads.pendingCount * 2) 100 ∧
      (serializedReads.run 100).2.memoryCycles =
        serializedReads.pendingCount * 2 := by
  have allSparse : serializedReads.AllSparse := by
    unfold AllSparse
    decide
  have servable : serializedReads.Servable := by
    unfold Servable Driver.Fits
    decide +kernel
  exact run_serialized serializedReads rfl ⟨rfl, rfl⟩ rfl 2 (by decide)
    (FixedLatency.takes 2) (FixedLatency.rejectsOnlyBusy 2) allSparse servable
    100 (by decide)

end RamulatorHbmSimulator

end PimGraphs
