import PimGraphs.Simulator.Arbitration

/-!
# Admission is maximal

The conditions that hold a port back change while a sweep admits bursts of
other ports, and so does the state of the memory.  A cycle that ends before its
waves are used up has ended with a sweep that admitted nothing: that sweep has
seen all ports in the state the cycle ends in.
-/

namespace PimGraphs

namespace WaveLoop

variable {M : Type}

/-- A burst cannot be admitted now: the serialization rule forbids it, it does
not fit the rest of the cycle's budget, or the memory rejects it. -/
def Blocked
    (config : AdmissionConfig M)
    (loop : WaveLoop M)
    (burst : MemoryBurst) : Prop :=
  loop.driver.serialized config burst = true ∨
    config.overBudget loop.tsvUsedThisTick burst.bytes = true ∨
    config.ramulator.send loop.driver.memory burst.addr
      loop.driver.nextSlot = none

/-- The front burst of every port that has one is blocked. -/
def Maximal (config : AdmissionConfig M) (loop : WaveLoop M) : Prop :=
  ∀ pcId burst, (loop.driver.mux.port pcId).front = some burst →
    loop.Blocked config burst

/-- Whether a port's turn hands its front burst to the memory. -/
def attempts
    (config : AdmissionConfig M)
    (loop : WaveLoop M)
    (pcId : PcId) : Bool :=
  match (loop.driver.mux.port pcId).front with
  | none => false
  | some burst =>
      !loop.driver.serialized config burst &&
        !config.overBudget loop.tsvUsedThisTick burst.bytes

/-- The attempts made while some ports have their turns, in order. -/
def attemptedPorts (config : AdmissionConfig M) :
    WaveLoop M → List PcId → List PcId
  | _, [] => []
  | loop, pcId :: rest =>
      let later := attemptedPorts config (visitPort config loop pcId) rest
      if loop.attempts config pcId then pcId :: later else later

/-- The attempts of one sweep. -/
def sweepAttempts (config : AdmissionConfig M) (loop : WaveLoop M) :
    List PcId :=
  attemptedPorts config
    { loop with
      waveCount := loop.waveCount + 1
      waveProgress := false }
    (RoundRobin.order loop.driver.mux.roundRobinCursor)

/-- The attempts of each wave. -/
def waveAttempts (config : AdmissionConfig M) :
    Nat → WaveLoop M → List (List PcId)
  | 0, _ => []
  | fuel + 1, loop =>
      if loop.waveProgress && decide (loop.waveCount < kMaxWavesPerTick) then
        loop.sweepAttempts config ::
          waveAttempts config fuel (loop.sweep config)
      else []

/-- Take the turns of some ports in a new wave. -/
def takeTurns
    (config : AdmissionConfig M)
    (loop : WaveLoop M)
    (wave : List PcId) : WaveLoop M :=
  wave.foldl (visitPort config)
    { loop with
      waveCount := loop.waveCount + 1
      waveProgress := false }

/-- A port that is not attempted has its turn without effect. -/
theorem visitPort_of_not_attempts
    {config : AdmissionConfig M}
    {loop : WaveLoop M}
    {pcId : PcId}
    (waits : loop.attempts config pcId = false) :
    visitPort config loop pcId = loop := by
  unfold attempts at waits
  unfold visitPort
  cases front : (loop.driver.mux.port pcId).front with
  | none => rfl
  | some burst =>
      simp only [front, Bool.and_eq_false_iff, Bool.not_eq_false'] at waits ⊢
      rcases waits with serialized | tooBig
      · rw [if_pos serialized]
      · rw [if_pos tooBig, ite_self]

/-- The attempted ports' turns are all that happens in some turns. -/
theorem foldl_attemptedPorts
    (config : AdmissionConfig M)
    (loop : WaveLoop M)
    (ports : List PcId) :
    (attemptedPorts config loop ports).foldl (visitPort config) loop =
      ports.foldl (visitPort config) loop := by
  induction ports generalizing loop with
  | nil => rfl
  | cons pcId rest inductionHypothesis =>
      rw [List.foldl_cons, ← inductionHypothesis, attemptedPorts]
      cases attempted : loop.attempts config pcId with
      | true => rfl
      | false => rw [visitPort_of_not_attempts attempted]; rfl

/-- A sweep is the turns of the ports it attempts. -/
theorem takeTurns_sweepAttempts
    (config : AdmissionConfig M)
    (loop : WaveLoop M) :
    loop.takeTurns config (loop.sweepAttempts config) = loop.sweep config :=
  foldl_attemptedPorts config _ _

/-- The waves are the turns of the ports that each of them attempts. -/
theorem foldl_waveAttempts
    (config : AdmissionConfig M)
    (fuel : Nat)
    (loop : WaveLoop M) :
    (loop.waveAttempts config fuel).foldl (takeTurns config) loop =
      runWaves config fuel loop := by
  induction fuel generalizing loop with
  | zero => rfl
  | succ fuel inductionHypothesis =>
      unfold waveAttempts runWaves
      split
      · rw [List.foldl_cons, takeTurns_sweepAttempts, inductionHypothesis]
      · rfl

theorem attemptedPorts_sublist
    (config : AdmissionConfig M)
    (loop : WaveLoop M)
    (ports : List PcId) :
    (attemptedPorts config loop ports).Sublist ports := by
  induction ports generalizing loop with
  | nil => exact List.Sublist.slnil
  | cons pcId rest inductionHypothesis =>
      unfold attemptedPorts
      simp only
      split
      · exact (inductionHypothesis _).cons_cons pcId
      · exact (inductionHypothesis _).cons pcId

/-- A sweep attempts each port at most once. -/
theorem nodup_sweepAttempts
    (config : AdmissionConfig M)
    (loop : WaveLoop M) :
    (loop.sweepAttempts config).Nodup := by
  apply (attemptedPorts_sublist config _ _).nodup
  exact RoundRobin.nodup_order _

theorem nodup_waveAttempts
    (config : AdmissionConfig M)
    (fuel : Nat)
    (loop : WaveLoop M) :
    ∀ wave ∈ loop.waveAttempts config fuel, wave.Nodup := by
  induction fuel generalizing loop with
  | zero => exact List.forall_mem_nil _
  | succ fuel inductionHypothesis =>
      unfold waveAttempts
      split
      · exact List.forall_mem_cons.mpr
          ⟨nodup_sweepAttempts config loop, inductionHypothesis _⟩
      · exact List.forall_mem_nil _

/-- A front burst that is not blocked is admitted in its port's turn. -/
theorem blocked_of_visitPort
    {config : AdmissionConfig M}
    {loop : WaveLoop M}
    (noProgress : loop.waveProgress = false)
    {pcId : PcId}
    (same : visitPort config loop pcId = loop)
    {burst : MemoryBurst}
    (isFront : (loop.driver.mux.port pcId).front = some burst) :
    loop.Blocked config burst := by
  by_contra free
  unfold Blocked at free
  push Not at free
  obtain ⟨notSerialized, fits, sent⟩ := free
  obtain ⟨memory, accepted⟩ := Option.ne_none_iff_exists'.mp sent
  rw [visitPort, isFront] at same
  simp only [notSerialized, fits, accepted] at same
  have progress := congrArg waveProgress same
  rw [noProgress] at progress
  exact Bool.noConfusion progress

/-- After a sweep without progress nothing can be admitted. -/
theorem maximal_sweep
    {config : AdmissionConfig M}
    {loop : WaveLoop M}
    (noProgress : (loop.sweep config).waveProgress = false) :
    (loop.sweep config).Maximal config := by
  intro pcId burst isFront
  exact blocked_of_visitPort noProgress
    ((sweep_of_noProgress noProgress).2 pcId) isFront

/-- The waves of a cycle end with nothing left to admit, or are used up. -/
theorem maximal_runWaves
    {config : AdmissionConfig M}
    (fuel : Nat)
    {loop : WaveLoop M}
    (waves : loop.waveCount + fuel = kMaxWavesPerTick)
    (stopped : loop.waveProgress = false → loop.Maximal config)
    (unused : (loop.runWaves config fuel).waveCount < kMaxWavesPerTick) :
    (loop.runWaves config fuel).Maximal config := by
  induction fuel generalizing loop with
  | zero => exact absurd waves (Nat.ne_of_lt unused)
  | succ fuel inductionHypothesis =>
      unfold runWaves at unused ⊢
      split at unused
      case isTrue goesOn =>
        rw [if_pos goesOn]
        refine inductionHypothesis ?_ maximal_sweep unused
        rw [waveCount_sweep, ← waves]
        omega
      case isFalse ended =>
        rw [if_neg ended]
        apply stopped
        by_contra progress
        rw [Bool.not_eq_false] at progress
        exact ended (by rw [progress, decide_eq_true unused]; rfl)

end WaveLoop

namespace Driver

variable {M : Type}

/-- What the admission of one cycle achieves. -/
structure AdmitsMaximally
    (config : AdmissionConfig M)
    (driver : Driver M) : Prop where
  maximal : (driver.admissionLoop config).waveCount <
      WaveLoop.kMaxWavesPerTick →
    (driver.admissionLoop config).Maximal config
  /-- The attempts of the waves are all that happens. -/
  attempts : (WaveLoop.waveAttempts config WaveLoop.kMaxWavesPerTick
    { driver := driver }).foldl (WaveLoop.takeTurns config)
      { driver := driver } = driver.admissionLoop config
  /-- No wave attempts a port twice. -/
  once : ∀ wave ∈ WaveLoop.waveAttempts config WaveLoop.kMaxWavesPerTick
    { driver := driver }, wave.Nodup

/-- Admission is maximal in every cycle, whatever the ports hold and whatever
the memory accepts. -/
theorem admitsMaximally
    (config : AdmissionConfig M)
    (driver : Driver M) :
    driver.AdmitsMaximally config := by
  constructor
  · exact WaveLoop.maximal_runWaves WaveLoop.kMaxWavesPerTick (Nat.zero_add _)
      fun noProgress => Bool.noConfusion noProgress
  · exact WaveLoop.foldl_waveAttempts config _ _
  · exact WaveLoop.nodup_waveAttempts config _ _

end Driver

end PimGraphs
