import PimGraphs.Simulator.Drain

/-!
# How fast bursts of one size are served

When all bursts have one size, a cycle admits as many of them as the byte
budget allows, as long as so many are pending.  On a memory that takes a fixed
time for every read this determines the number of cycles of a call exactly.
-/

namespace PimGraphs

namespace WaveLoop

variable {M : Type} {config : AdmissionConfig M}

/-- What every visit keeps, and no wave's start breaks, the wave loop
keeps. -/
theorem kept_of_visits
    (kept : WaveLoop M → Prop)
    (visit : ∀ loop pcId, kept loop → kept (visitPort config loop pcId))
    (begin : ∀ loop : WaveLoop M, kept loop →
      kept { loop with waveCount := loop.waveCount + 1, waveProgress := false })
    {driver : Driver M}
    (initially : kept { driver := driver }) :
    kept (driver.admissionLoop config) := by
  have waves (fuel : Nat) (loop : WaveLoop M) (before : kept loop) :
      kept (loop.runWaves config fuel) := by
    induction fuel generalizing loop with
    | zero => exact before
    | succ fuel inductionHypothesis =>
        rw [WaveLoop.runWaves]
        split
        · apply inductionHypothesis
          refine List.foldlRecOn (motive := kept) _ _ (begin loop before) ?_
          intro reached here pcId _
          exact visit reached pcId here
        · exact before
  exact waves _ _ initially

/-- The meters of a cycle in which `count` bursts of one size have been
admitted. -/
structure Metered
    (size : Nat)
    (first : Driver M)
    (count : Nat)
    (loop : WaveLoop M) : Prop where
  slots : loop.driver.nextSlot = first.nextSlot + count
  used : loop.tsvUsedThisTick = count * size
  uniform : loop.driver.mux.Uniform size

/-- A visit skips, or admits a burst that fits what is left of the budget. -/
theorem Metered.visitPort
    {size count : Nat}
    {first : Driver M}
    {loop : WaveLoop M}
    (metered : Metered size first count loop)
    (config : AdmissionConfig M)
    (pcId : PcId) :
    WaveLoop.visitPort config loop pcId = loop ∨
      config.overBudget (count * size) size = false ∧
        Metered size first (count + 1)
          (WaveLoop.visitPort config loop pcId) := by
  rcases visitPort_cases config loop pcId with
    skipped | ⟨burst, rest, memory, front, _, allowed, _, admitted⟩
  · exact Or.inl skipped
  · have sameSize : burst.bytes = size :=
      metered.uniform pcId burst (front ▸ List.mem_cons_self)
    rw [sameSize, metered.used] at allowed
    refine Or.inr ⟨allowed, ?_⟩
    rw [admitted]
    constructor
    · exact congrArg (· + 1) metered.slots
    · simp only [metered.used, sameSize, Nat.succ_mul]
    · exact metered.uniform.issue pcId

/-- Each wave but the last one admits a burst. -/
theorem waveCount_le
    (config : AdmissionConfig M)
    (fuel : Nat)
    (loop : WaveLoop M) :
    (loop.runWaves config fuel).waveCount + loop.driver.nextSlot ≤
      loop.waveCount + (loop.runWaves config fuel).driver.nextSlot + 1 := by
  induction fuel generalizing loop with
  | zero =>
      rw [WaveLoop.runWaves]
      exact Nat.le_succ _
  | succ fuel inductionHypothesis =>
      rw [WaveLoop.runWaves]
      split
      case isFalse _ => exact Nat.le_succ _
      case isTrue _ =>
        have later := inductionHypothesis (loop.sweep config)
        rw [waveCount_sweep] at later
        cases progress : (loop.sweep config).waveProgress with
        | true =>
            have used := Driver.nextSlot_lt_of_progress loop progress
            omega
        | false =>
            have ended : (loop.sweep config).runWaves config fuel =
                loop.sweep config := by
              cases fuel with
              | zero => rfl
              | succ fuel => simp [WaveLoop.runWaves, progress]
            have same := congrArg (fun reached : WaveLoop M =>
              reached.driver.nextSlot) (sweep_of_noProgress progress).1
            rw [ended, waveCount_sweep]
            simp only at same
            omega

end WaveLoop

namespace Driver

variable {M : Type} {config : AdmissionConfig M} {size width : Nat}
variable {driver : Driver M}

/-- How many bursts of one size the budget of a cycle allows. -/
structure Allows
    (config : AdmissionConfig M)
    (size width : Nat) : Prop where
  positive : 0 < width
  last : config.overBudget ((width - 1) * size) size = false
  noMore : config.overBudget (width * size) size = true

theorem overBudget_mono
    {less more : Nat}
    (ordered : less ≤ more)
    (allowed : config.overBudget more size = false) :
    config.overBudget less size = false := by
  rw [AdmissionConfig.overBudget, Bool.and_eq_false_iff] at allowed ⊢
  refine allowed.imp_right fun fits => ?_
  rw [decide_eq_false_iff_not, not_lt] at fits ⊢
  exact (add_le_add_left (Nat.cast_le.mpr ordered) _).trans fits

/-- The admission of a cycle, metered. -/
theorem exists_metered
    (config : AdmissionConfig M)
    (uniform : driver.mux.Uniform size) :
    ∃ count, WaveLoop.Metered size driver count
      (driver.admissionLoop config) := by
  apply WaveLoop.kept_of_visits fun loop =>
    ∃ count, WaveLoop.Metered size driver count loop
  · rintro loop pcId ⟨count, metered⟩
    rcases metered.visitPort config pcId with
      skipped | ⟨-, admitted⟩
    · exact ⟨count, by rwa [skipped]⟩
    · exact ⟨count + 1, admitted⟩
  · rintro loop ⟨count, metered⟩
    exact ⟨count, metered.slots, metered.used, metered.uniform⟩
  · exact ⟨0, rfl, (Nat.zero_mul size).symm, uniform⟩

/-- No memory lets a cycle admit more bursts than its budget allows. -/
theorem admits_le_width
    (uniform : driver.mux.Uniform size)
    (noMore : config.overBudget (width * size) size = true) :
    (driver.admissionLoop config).driver.nextSlot ≤
      driver.nextSlot + width := by
  have metered : ∃ count ≤ width, WaveLoop.Metered size driver count
      (driver.admissionLoop config) := by
    apply WaveLoop.kept_of_visits fun loop =>
      ∃ count ≤ width, WaveLoop.Metered size driver count loop
    · rintro loop pcId ⟨count, bound, metered⟩
      rcases metered.visitPort config pcId with
        skipped | ⟨allowed, admitted⟩
      · exact ⟨count, bound, by rwa [skipped]⟩
      · refine ⟨count + 1, ?_, admitted⟩
        by_contra full
        have exceeded := overBudget_mono
          (Nat.mul_le_mul_right size (show width ≤ count by omega)) allowed
        rw [noMore] at exceeded
        exact Bool.noConfusion exceeded
    · rintro loop ⟨count, bound, metered⟩
      exact ⟨count, bound, metered.slots, metered.used, metered.uniform⟩
    · exact ⟨0, Nat.zero_le _, rfl, (Nat.zero_mul size).symm, uniform⟩
  obtain ⟨count, bound, metered⟩ := metered
  rw [metered.slots]
  exact Nat.add_le_add_left bound _

/-- A memory that never rejects lets a cycle admit all the bursts that its
budget allows, up to one for each wave but the last. -/
theorem width_le_admits
    (accepts : config.ramulator.NeverRejects)
    (parallel : config.serializeStandardSparseReads = false)
    (uniform : driver.mux.Uniform size)
    (last : config.overBudget ((width - 1) * size) size = false)
    (waves : width ≤ 255) :
    driver.nextSlot + min driver.mux.pendingBursts.card width ≤
      (driver.admissionLoop config).driver.nextSlot := by
  obtain ⟨count, metered⟩ := exists_metered config uniform
  have slots := (admits_admissionLoop config driver).slots
  have grown := metered.slots
  have waveBound := WaveLoop.waveCount_le config WaveLoop.kMaxWavesPerTick
    { driver := driver }
  change (driver.admissionLoop config).waveCount + driver.nextSlot ≤
    0 + (driver.admissionLoop config).driver.nextSlot + 1 at waveBound
  by_cases unused : (driver.admissionLoop config).waveCount < 256
  case neg => omega
  case pos =>
    by_cases nonePending :
        (driver.admissionLoop config).driver.mux.pendingBursts = 0
    · rw [nonePending, Multiset.card_zero] at slots
      omega
    · rw [PseudoChannelMultiplexer.pendingBursts_eq_zero_iff,
        not_forall] at nonePending
      obtain ⟨pcId, waiting⟩ := nonePending
      obtain ⟨burst, rest, front⟩ := List.exists_cons_of_ne_nil waiting
      have sameSize : burst.bytes = size :=
        metered.uniform pcId burst (front ▸ List.mem_cons_self)
      have isFront : ((driver.admissionLoop config).driver.mux.port
          pcId).front = some burst := by
        rw [PseudoChannelPort.front, front]
        rfl
      rcases (admitsMaximally config driver).maximal unused pcId burst
        isFront with serialized | spent | rejected
      · simp [Driver.serialized, parallel] at serialized
      · rw [sameSize, metered.used] at spent
        by_contra tooFew
        have allowed := overBudget_mono
          (Nat.mul_le_mul_right size (show count ≤ width - 1 by omega)) last
        rw [spent] at allowed
        exact Bool.noConfusion allowed
      · have accepted := accepts (driver.admissionLoop config).driver.memory
          burst.addr (driver.admissionLoop config).driver.nextSlot
        rw [rejected] at accepted
        exact Bool.noConfusion accepted

end Driver

namespace RamulatorHbmSimulator

open RunState

variable {F M : Type} [Zero F] [One F] [Add F] [Sub F] [Mul F] [Div F]
variable [NatCast F] {simulator : RamulatorHbmSimulator F M}
variable {latency size width : Nat}

/-- With nothing attached a cycle admits from the ports it finds. -/
theorem nextSlot_before_succ
    (unattached : simulator.attached = {})
    (time : Nat) :
    (simulator.before (time + 1)).driver.nextSlot =
      ((simulator.before time).driver.admissionLoop
        simulator.admission).driver.nextSlot := by
  rw [before, clocked_succ, nextSlot_cycle,
    loadedDriver_of_unattached unattached]
  rfl

theorem uniform_before
    (unattached : simulator.attached = {})
    (uniform : simulator.mux.Uniform size)
    (time : Nat) :
    (simulator.before time).driver.mux.Uniform size := by
  intro pcId burst member
  have fifo := (serving_before unattached time).fifo pcId
  have whole : (simulator.mux.port pcId).pending = _ := fifo.symm
  apply uniform pcId
  rw [whole]
  exact List.mem_append_right _ member

/-- Cycles that serve the pending bursts, `width` a cycle. -/
def uniformCycles
    (simulator : RamulatorHbmSimulator F M)
    (latency width : Nat) : Nat :=
  (simulator.pendingCount - 1) / width + latency

/-- A memory that never rejects serves bursts of one size at the rate of the
byte budget. -/
theorem Idle.drained_uniform
    (idle : simulator.Idle)
    (unattached : simulator.attached = {})
    (uniform : simulator.mux.Uniform size)
    (accepts : simulator.admission.ramulator.NeverRejects)
    (parallel : simulator.admission.serializeStandardSparseReads = false)
    (positive : 0 < latency)
    (within : simulator.admission.ramulator.FiresWithin latency)
    (allows : Driver.Allows simulator.admission size width)
    (waves : width ≤ 255)
    {maxMemoryCycles : Nat}
    (enough : simulator.uniformCycles latency width ≤ maxMemoryCycles) :
    simulator.Drained (simulator.uniformCycles latency width)
      maxMemoryCycles := by
  have isPrompt := idle.isPrompt positive within anyBurst
  have busy (time : Nat) : min simulator.pendingCount
        (issued simulator.runConfig anyBurst simulator.enter time + width) ≤
      issued simulator.runConfig anyBurst simulator.enter (time + 1) := by
    have now := idle.whereabouts unattached time
    have next := idle.whereabouts unattached (time + 1)
    have admits := Driver.width_le_admits accepts parallel
      (uniform_before unattached uniform time) allows.last waves
    rw [← nextSlot_before_succ unattached, now.slots, next.slots] at admits
    have pending := now.pending
    omega
  have covered : simulator.pendingCount ≤
      ((simulator.pendingCount - 1) / width + 1) * width := by
    have split := Nat.div_add_mod' (simulator.pendingCount - 1) width
    have small := Nat.mod_lt (simulator.pendingCount - 1) allows.positive
    rw [Nat.succ_mul]
    omega
  have done := isPrompt.completed_of_width busy covered
  refine idle.drained unattached enough ?_
  have last := idle.whereabouts unattached
    (simulator.uniformCycles latency width)
  have lastPending := last.pending
  have lastOutstanding := last.outstanding
  unfold uniformCycles at lastPending lastOutstanding
  refine (hasWork_before unattached _).mpr ⟨Multiset.card_eq_zero.mp ?_, ?_⟩
  · unfold uniformCycles
    omega
  · unfold uniformCycles
    omega

/-- No memory is issued more bursts in a cycle than the budget allows. -/
theorem Idle.issued_succ_le
    (idle : simulator.Idle)
    (unattached : simulator.attached = {})
    (uniform : simulator.mux.Uniform size)
    (noMore : simulator.admission.overBudget (width * size) size = true)
    (time : Nat) :
    issued simulator.runConfig anyBurst simulator.enter (time + 1) ≤
      issued simulator.runConfig anyBurst simulator.enter time + width := by
  have admits := Driver.admits_le_width
    (uniform_before unattached uniform time) noMore
  rw [← nextSlot_before_succ unattached,
    (idle.whereabouts unattached time).slots,
    (idle.whereabouts unattached (time + 1)).slots] at admits
  omega

/-- No memory is faster. -/
theorem Idle.uniformCycles_le
    (idle : simulator.Idle)
    (unattached : simulator.attached = {})
    (uniform : simulator.mux.Uniform size)
    (notBefore : simulator.admission.ramulator.FiresNotBefore latency)
    (noMore : simulator.admission.overBudget (width * size) size = true)
    (someBursts : 0 < simulator.pendingCount)
    {maxMemoryCycles : Nat}
    (all : (simulator.run maxMemoryCycles).2.burstsCompleted =
      simulator.pendingCount) :
    simulator.uniformCycles latency width ≤
      (simulator.run maxMemoryCycles).2.memoryCycles := by
  obtain ⟨count, stops⟩ := exists_stopsAfter simulator.runConfig
    maxMemoryCycles simulator.enter
  have cycles : (simulator.run maxMemoryCycles).2.memoryCycles = count :=
    stops.cycles_eq.trans (Nat.zero_add count)
  have same : simulator.runState maxMemoryCycles = simulator.before count :=
    stops.loop_eq
  change (simulator.runState maxMemoryCycles).driver.completed = _ at all
  rw [same, (idle.whereabouts unattached count).counted] at all
  have someCompleted :
      0 < completed simulator.runConfig anyBurst simulator.enter count := by
    omega
  obtain ⟨rounds, late, covered⟩ :=
    (idle.isSlow notBefore anyBurst).rounds_of_width rfl
      (idle.issued_succ_le unattached uniform noMore) someCompleted
  have few : (simulator.pendingCount - 1) / width < rounds + 1 := by
    apply Nat.div_lt_of_lt_mul
    rw [Nat.mul_comm]
    omega
  rw [cycles, late, uniformCycles]
  omega

/-- A call that finds only bursts of one size, on a memory that accepts every
read and takes `latency` ticks for each, takes one cycle for every `width`
bursts, as many as the byte budget of a cycle allows, and the latency of the
last ones. -/
theorem run_uniform
    (simulator : RamulatorHbmSimulator F M)
    (unattached : simulator.attached = {})
    (idle : simulator.Idle)
    (parallel : simulator.admission.serializeStandardSparseReads = false)
    (accepts : simulator.admission.ramulator.NeverRejects)
    (latency : Nat)
    (positive : 0 < latency)
    (takes : simulator.admission.ramulator.Takes latency)
    (size width : Nat)
    (uniform : simulator.mux.Uniform size)
    (someBursts : 0 < simulator.pendingCount)
    (allows : Driver.Allows simulator.admission size width)
    (waves : width ≤ 255)
    (maxMemoryCycles : Nat)
    (enough : simulator.uniformCycles latency width ≤ maxMemoryCycles) :
    simulator.Drained (simulator.uniformCycles latency width)
        maxMemoryCycles ∧
      (simulator.run maxMemoryCycles).2.memoryCycles =
        simulator.uniformCycles latency width := by
  have drained := idle.drained_uniform unattached uniform accepts parallel
    positive takes.within allows waves enough
  refine ⟨drained, Nat.le_antisymm drained.memoryCycles ?_⟩
  exact idle.uniformCycles_le unattached uniform takes.notBefore allows.noMore
    someBursts drained.burstsCompleted

/-- Thirty-two reads of two ticks, eight a cycle. -/
theorem sequentialReads_uniform :
    sequentialReads.Drained (sequentialReads.uniformCycles 2 8) 100 ∧
      (sequentialReads.run 100).2.memoryCycles =
        sequentialReads.uniformCycles 2 8 := by
  have empty : PseudoChannelMultiplexer.Uniform (64 : UInt32).toNat {} :=
    fun _ _ member => absurd member List.not_mem_nil
  have loaded : sequentialReads.mux.Uniform 64 :=
    PseudoChannelMultiplexer.Uniform.loadSequentialWorkload empty 2
  exact run_uniform sequentialReads rfl ⟨rfl, rfl⟩ rfl (fun _ _ _ => rfl) 2
    (by decide) (FixedLatency.takes 2) 64 8 loaded (by decide)
    ⟨by decide, by decide +kernel, by decide +kernel⟩ (by decide) 100
    (by decide)

end RamulatorHbmSimulator

end PimGraphs
