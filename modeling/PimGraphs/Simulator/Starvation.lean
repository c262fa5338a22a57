import PimGraphs.Simulator.Fairness

/-!
# A burst that waits as long as smaller ones last

The budget of a cycle has room for two small bursts, or for a large one.  With
the cursor behind the port 6, a cycle reaches the small bursts of the port 0
before the large one of the port 5, which then exceeds what is left; the small
burst of the port 6 takes the rest and leaves the cursor where it was.
-/

namespace PimGraphs

/-- What the ports 0, 6 and 5 hold, all others being empty. -/
def lanes (first second large : List MemoryBurst) (pcId : PcId) :
    List MemoryBurst :=
  if pcId = 0 then first else if pcId = 6 then second
    else if pcId = 5 then large else []

/-- The budget of a cycle has room for two small bursts, or for a large
one. -/
structure AdmissionConfig.RoomForTwo
    {M : Type}
    (config : AdmissionConfig M)
    (small large : Nat) : Prop where
  first : config.overBudget 0 small = false
  second : config.overBudget small small = false
  noThird : config.overBudget (2 * small) small = true
  alone : config.overBudget 0 large = false
  notBoth : config.overBudget small large = true

namespace WaveLoop

variable {M : Type} {config : AdmissionConfig M} {small large : Nat}
variable {first second waiting : List MemoryBurst} {loop : WaveLoop M}

/-- Ports and used budget of a cycle. -/
structure Contended
    (first second waiting : List MemoryBurst)
    (used : Nat)
    (loop : WaveLoop M) : Prop where
  pending : ∀ pcId,
    (loop.driver.mux.port pcId).pending = lanes first second waiting pcId
  used_eq : loop.tsvUsedThisTick = used

/-- Visits that skip all their ports. -/
theorem foldl_of_skipped
    {ports : List PcId}
    (skipped : ∀ pcId ∈ ports, visitPort config loop pcId = loop) :
    ports.foldl (visitPort config) loop = loop := by
  induction ports with
  | nil => rfl
  | cons pcId rest inductionHypothesis =>
      rw [List.foldl_cons, skipped pcId List.mem_cons_self]
      exact inductionHypothesis fun other member =>
        skipped other (List.mem_cons_of_mem pcId member)

/-- The ports that hold nothing. -/
theorem Contended.foldl_of_empty
    {used : Nat}
    (contended : Contended first second waiting used loop)
    {ports : List PcId}
    (others : ∀ pcId ∈ ports, pcId ≠ 0 ∧ pcId ≠ 6 ∧ pcId ≠ 5) :
    ports.foldl (visitPort config) loop = loop := by
  apply foldl_of_skipped
  intro pcId member
  obtain ⟨notFirst, notSecond, notLarge⟩ := others pcId member
  apply visitPort_of_empty
  rw [contended.pending, lanes, if_neg notFirst, if_neg notSecond,
    if_neg notLarge]

/-- The large burst exceeds what the small ones have left. -/
theorem Contended.visit_large
    {used : Nat}
    {burst : MemoryBurst}
    {rest : List MemoryBurst}
    (contended : Contended first second (burst :: rest) used loop)
    (exceeds : config.overBudget used burst.bytes = true) :
    visitPort config loop 5 = loop := by
  apply visitPort_of_overBudget (contended.pending 5)
  rw [contended.used_eq]
  exact exceeds

/-- A small burst of the port 0 that fits is admitted. -/
theorem Contended.visit_first
    (accepts : config.ramulator.NeverRejects)
    (parallel : config.serializeStandardSparseReads = false)
    {burst : MemoryBurst}
    {rest : List MemoryBurst}
    (contended : Contended (burst :: rest) second waiting 0 loop)
    (allowed : config.overBudget 0 burst.bytes = false) :
    Contended rest second waiting burst.bytes
      (visitPort config loop 0) := by
  obtain ⟨memory, admitted⟩ := exists_visitPort_of_allowed accepts parallel
    (contended.pending 0)
    (show config.overBudget loop.tsvUsedThisTick burst.bytes = false by
      rw [contended.used_eq]
      exact allowed)
  rw [admitted]
  constructor
  · intro pcId
    simp only [Driver.acceptRead,
      PseudoChannelMultiplexer.port_advanceAfterIssue,
      PseudoChannelMultiplexer.port_setPort]
    by_cases here : pcId = 0
    · rw [here, if_pos rfl, PseudoChannelPort.pending_pop, contended.pending]
      rfl
    · rw [if_neg here, contended.pending, lanes, lanes, if_neg here,
        if_neg here]
  · simp only [contended.used_eq, Nat.zero_add]

/-- So is one of the port 6, which leaves the cursor behind that port. -/
theorem Contended.visit_second
    (accepts : config.ramulator.NeverRejects)
    (parallel : config.serializeStandardSparseReads = false)
    {used : Nat}
    {burst : MemoryBurst}
    {rest : List MemoryBurst}
    (contended : Contended first (burst :: rest) waiting used loop)
    (allowed : config.overBudget used burst.bytes = false) :
    Contended first rest waiting (used + burst.bytes)
        (visitPort config loop 6) ∧
      (visitPort config loop 6).driver.mux.rrCursor = 7 ∧
        (visitPort config loop 6).waveProgress = true := by
  obtain ⟨memory, admitted⟩ := exists_visitPort_of_allowed accepts parallel
    (contended.pending 6)
    (show config.overBudget loop.tsvUsedThisTick burst.bytes = false by
      rw [contended.used_eq]
      exact allowed)
  rw [admitted]
  refine ⟨⟨?_, ?_⟩, rfl, rfl⟩
  · intro pcId
    simp only [Driver.acceptRead,
      PseudoChannelMultiplexer.port_advanceAfterIssue,
      PseudoChannelMultiplexer.port_setPort]
    by_cases here : pcId = 6
    · rw [here, if_pos rfl, PseudoChannelPort.pending_pop, contended.pending]
      rfl
    · rw [if_neg here, contended.pending, lanes, lanes, if_neg here,
        if_neg here]
  · simp only [contended.used_eq]

/-- A sweep from the port 0 or from behind the port 6. -/
theorem sweep_eq
    (cursor : loop.driver.mux.rrCursor = 0 ∨ loop.driver.mux.rrCursor = 7) :
    ∃ before after : List PcId,
      (∀ pcId ∈ before, pcId ≠ 0 ∧ pcId ≠ 6 ∧ pcId ≠ 5) ∧
      (∀ pcId ∈ after, pcId ≠ 0 ∧ pcId ≠ 6 ∧ pcId ≠ 5) ∧
      loop.sweep config = (before ++ 0 :: ([1, 2, 3, 4] ++ 5 :: 6 ::
        after)).foldl (visitPort config)
          { loop with waveCount := loop.waveCount + 1, waveProgress := false } :=
    by
  unfold sweep PseudoChannelMultiplexer.roundRobinCursor
  rcases cursor with start | start
  · refine ⟨[], [7, 8, 9, 10, 11, 12, 13, 14, 15], by decide, by decide, ?_⟩
    rw [start]
    rfl
  · refine ⟨[7, 8, 9, 10, 11, 12, 13, 14, 15], [], by decide, by decide, ?_⟩
    rw [start]
    rfl

/-- The first sweep of a cycle takes the two small bursts. -/
theorem Contended.firstSweep
    (room : config.RoomForTwo small large)
    (accepts : config.ramulator.NeverRejects)
    (parallel : config.serializeStandardSparseReads = false)
    {one other big : MemoryBurst}
    (oneSmall : one.bytes = small)
    (otherSmall : other.bytes = small)
    (isLarge : big.bytes = large)
    {rest : List MemoryBurst}
    (contended : Contended (one :: first) (other :: second) (big :: rest) 0
      loop)
    (cursor : loop.driver.mux.rrCursor = 0 ∨
      loop.driver.mux.rrCursor = 7) :
    Contended first second (big :: rest) (small + small)
        (loop.sweep config) ∧
      (loop.sweep config).driver.mux.rrCursor = 7 ∧
        (loop.sweep config).waveProgress = true := by
  obtain ⟨before, after, noneBefore, noneAfter, swept⟩ := sweep_eq cursor
  have start : Contended (one :: first) (other :: second) (big :: rest) 0
      { loop with waveCount := loop.waveCount + 1, waveProgress := false } :=
    ⟨contended.pending, contended.used_eq⟩
  have afterFirst := start.visit_first accepts parallel
    (oneSmall ▸ room.first)
  have afterSecond := afterFirst.visit_second accepts parallel
    (by rw [oneSmall, otherSmall]; exact room.second)
  rw [swept, List.foldl_append, start.foldl_of_empty noneBefore,
    List.foldl_cons, List.foldl_append,
    afterFirst.foldl_of_empty (by decide), List.foldl_cons,
    afterFirst.visit_large (by rw [oneSmall, isLarge]; exact room.notBoth),
    List.foldl_cons, afterSecond.1.foldl_of_empty noneAfter]
  rw [oneSmall, otherSmall] at afterSecond
  exact afterSecond

/-- The second one takes nothing. -/
theorem Contended.secondSweep
    (room : config.RoomForTwo small large)
    (smaller : small ≤ large)
    (allFirst : ∀ burst ∈ first, burst.bytes = small)
    (allSecond : ∀ burst ∈ second, burst.bytes = small)
    (allWaiting : ∀ burst ∈ waiting, burst.bytes = large)
    (contended : Contended first second waiting (small + small) loop) :
    (loop.sweep config).driver = loop.driver ∧
      (loop.sweep config).waveProgress = false := by
  have exceeds (bytes : Nat) (atLeast : small ≤ bytes) :
      config.overBudget (small + small) bytes = true := by
    have noThird := room.noThird
    rw [Nat.two_mul, AdmissionConfig.overBudget, Bool.and_eq_true,
      decide_eq_true_eq, decide_eq_true_eq] at noThird
    rw [AdmissionConfig.overBudget, Bool.and_eq_true, decide_eq_true_eq,
      decide_eq_true_eq]
    exact ⟨noThird.1, noThird.2.trans_le
      (add_le_add_right (Nat.cast_le.mpr atLeast) _)⟩
  have large_of_mem {pcId : PcId} {burst : MemoryBurst}
      (member : burst ∈ lanes first second waiting pcId) :
      small ≤ burst.bytes := by
    unfold lanes at member
    split at member
    · exact (allFirst burst member).ge
    · split at member
      · exact (allSecond burst member).ge
      · split at member
        · exact smaller.trans (allWaiting burst member).ge
        · exact absurd member List.not_mem_nil
  have nothing : loop.sweep config =
      { loop with waveCount := loop.waveCount + 1, waveProgress := false } := by
    unfold sweep
    apply foldl_of_skipped
    intro pcId _
    have start : Contended first second waiting (small + small)
        { loop with waveCount := loop.waveCount + 1, waveProgress := false } :=
      ⟨contended.pending, contended.used_eq⟩
    cases pending : lanes first second waiting pcId with
    | nil => exact visitPort_of_empty ((start.pending pcId).trans pending)
    | cons burst rest =>
        apply visitPort_of_overBudget ((start.pending pcId).trans pending)
        rw [start.used_eq]
        exact exceeds _ (large_of_mem (pending ▸ List.mem_cons_self))
  rw [nothing]
  exact ⟨rfl, rfl⟩

end WaveLoop

namespace Driver

variable {M : Type} {config : AdmissionConfig M} {small large : Nat}
variable {first second waiting : List MemoryBurst} {driver : Driver M}

/-- Small bursts on the ports 0 and 6 in front of a large one's turn. -/
structure Contended
    (first second waiting : List MemoryBurst)
    (driver : Driver M) : Prop where
  pending : ∀ pcId,
    (driver.mux.port pcId).pending = lanes first second waiting pcId
  cursor : driver.mux.rrCursor = 0 ∨ driver.mux.rrCursor = 7

/-- A cycle takes the two small bursts and nothing else. -/
theorem Contended.admissionLoop
    (room : config.RoomForTwo small large)
    (accepts : config.ramulator.NeverRejects)
    (parallel : config.serializeStandardSparseReads = false)
    (smaller : small ≤ large)
    {one other big : MemoryBurst}
    {rest : List MemoryBurst}
    (allFirst : ∀ burst ∈ one :: first, burst.bytes = small)
    (allSecond : ∀ burst ∈ other :: second, burst.bytes = small)
    (allWaiting : ∀ burst ∈ big :: rest, burst.bytes = large)
    (contended : Contended (one :: first) (other :: second) (big :: rest)
      driver) :
    Contended first second (big :: rest)
      (driver.admissionLoop config).driver := by
  have start : WaveLoop.Contended (one :: first) (other :: second)
      (big :: rest) 0 { driver := driver } :=
    ⟨contended.pending, rfl⟩
  obtain ⟨swept, cursor, progress⟩ := start.firstSweep room accepts parallel
    (allFirst one List.mem_cons_self) (allSecond other List.mem_cons_self)
    (allWaiting big List.mem_cons_self) contended.cursor
  obtain ⟨same, stopped⟩ := swept.secondSweep room smaller
    (fun burst member => allFirst burst (List.mem_cons_of_mem one member))
    (fun burst member => allSecond burst (List.mem_cons_of_mem other member))
    allWaiting
  have count : (WaveLoop.sweep config { driver := driver }).waveCount = 1 :=
    WaveLoop.waveCount_sweep config { driver := driver }
  rw [admissionLoop_eq, show 255 = 254 + 1 from rfl, WaveLoop.runWaves,
    progress, count, show decide (1 < WaveLoop.kMaxWavesPerTick) = true from
      rfl, Bool.and_self, if_pos rfl]
  have ended : ((WaveLoop.sweep config
      { driver := driver }).sweep config).runWaves config 254 =
      (WaveLoop.sweep config { driver := driver }).sweep config := by
    rw [show 254 = 253 + 1 from rfl, WaveLoop.runWaves, stopped,
      Bool.false_and]
    exact if_neg Bool.false_ne_true
  rw [ended, same]
  exact ⟨swept.pending, Or.inr cursor⟩

end Driver

namespace RamulatorHbmSimulator

open RunState

variable {F M : Type} [Zero F] [One F] [Add F] [Sub F] [Mul F] [Div F]
variable [NatCast F] {small large : Nat}

/-- Small bursts on the ports 0 and 6, as many as given, and a large one on the
port 5. -/
def contendedMux (count : Nat) (small large : UInt32) :
    PseudoChannelMultiplexer where
  ports := fun pcId => ⟨lanes (List.replicate count { sizeBytes := small })
    (List.replicate count { pcId := 6, sizeBytes := small })
    [{ pcId := 5, sizeBytes := large }] pcId⟩

/-- While small bursts are left the large one waits. -/
theorem contended_before
    (simulator : RamulatorHbmSimulator F M)
    (unattached : simulator.attached = {})
    (accepts : simulator.admission.ramulator.NeverRejects)
    (parallel : simulator.admission.serializeStandardSparseReads = false)
    (small large : UInt32)
    (smaller : small.toNat ≤ large.toNat)
    (room : simulator.admission.RoomForTwo small.toNat large.toNat)
    (count : Nat)
    (holds : simulator.mux = contendedMux count small large)
    {time : Nat}
    (early : time ≤ count) :
    Driver.Contended
      (List.replicate (count - time) { sizeBytes := small })
      (List.replicate (count - time) { pcId := 6, sizeBytes := small })
      [{ pcId := 5, sizeBytes := large }]
      (simulator.before time).driver := by
  induction time with
  | zero =>
      have start : (simulator.before 0).driver.mux =
          contendedMux count small large := holds
      exact ⟨fun pcId => by rw [start]; rfl, Or.inl (by rw [start]; rfl)⟩
  | succ time inductionHypothesis =>
      have contended := inductionHypothesis (Nat.le_of_succ_le early)
      rw [show count - time = (count - (time + 1)) + 1 by omega,
        List.replicate_succ, List.replicate_succ] at contended
      have allSmall (pcId : PcId) (more : Nat) : ∀ burst ∈
          ({ pcId := pcId, sizeBytes := small } : MemoryBurst) ::
            List.replicate more { pcId := pcId, sizeBytes := small },
          burst.bytes = small.toNat := by
        intro burst member
        rw [← List.replicate_succ] at member
        rw [List.eq_of_mem_replicate member]
        rfl
      have next := contended.admissionLoop room accepts parallel smaller
        (allSmall 0 _) (allSmall 6 _)
        (by
          intro burst member
          rw [List.mem_singleton.mp member]
          rfl)
      have same : (simulator.before (time + 1)).driver.mux =
          ((simulator.before time).driver.admissionLoop
            simulator.admission).driver.mux := by
        rw [before, clocked_succ, mux_cycle,
          loadedDriver_of_unattached unattached]
        rfl
      refine ⟨fun pcId => ?_, ?_⟩
      · rw [same]
        exact next.pending pcId
      · rw [same]
        exact next.cursor

/-- A burst at the front of its port that fits a cycle's budget alone can wait
longer than any number of cycles: as long as two other ports have small
bursts. -/
theorem run_starves
    (simulator : RamulatorHbmSimulator F M)
    (unattached : simulator.attached = {})
    (accepts : simulator.admission.ramulator.NeverRejects)
    (parallel : simulator.admission.serializeStandardSparseReads = false)
    (small large : UInt32)
    (smaller : small.toNat ≤ large.toNat)
    (room : simulator.admission.RoomForTwo small.toNat large.toNat)
    (count : Nat)
    (holds : simulator.mux = contendedMux count small large)
    (time : Nat)
    (early : time ≤ count) :
    simulator.enter.waitingOn simulator.runConfig 5 time =
        [{ pcId := 5, sizeBytes := large }] ∧
      Driver.Fits simulator.admission { pcId := 5, sizeBytes := large } ∧
      simulator.enter.admittedBefore simulator.runConfig 5 time = [] := by
  have contended := contended_before simulator unattached accepts parallel
    small large smaller room count holds early
  have waits : simulator.enter.waitingOn simulator.runConfig 5 time =
      [{ pcId := 5, sizeBytes := large }] := contended.pending 5
  refine ⟨waits, room.alone, ?_⟩
  have fifo := (serving_before unattached time).fifo 5
  have start : (simulator.mux.port 5).pending =
      [{ pcId := 5, sizeBytes := large }] := by
    rw [holds]
    rfl
  change _ = [] ++ (simulator.mux.port 5).pending at fifo
  rw [List.nil_append, start, show ((simulator.before
    time).driver.mux.port 5).pending = _ from waits] at fifo
  exact List.append_left_eq_self.mp fifo

/-- Bursts of 64 bytes in front of one of 128, with 128 bytes a cycle. -/
def contendedReads (count : Nat) :
    RamulatorHbmSimulator ℚ (List (Nat × Nat)) :=
  { sequentialReads with
    admission := { sequentialReads.admission with tsvPeakGbps := 128 }
    mux := contendedMux count 64 128 }

theorem contendedReads_starves :
    (contendedReads 5).enter.waitingOn (contendedReads 5).runConfig 5 5 =
        [{ pcId := 5, sizeBytes := 128 }] ∧
      Driver.Fits (contendedReads 5).admission
        { pcId := 5, sizeBytes := 128 } ∧
      (contendedReads 5).enter.admittedBefore (contendedReads 5).runConfig 5
        5 = [] := by
  have room : (contendedReads 5).admission.RoomForTwo (64 : UInt32).toNat
      (128 : UInt32).toNat := by
    constructor <;> decide +kernel
  exact run_starves (contendedReads 5) rfl (fun _ _ _ => rfl) rfl 64 128
    (by decide) room 5 rfl 5 (by decide)

end RamulatorHbmSimulator

end PimGraphs
