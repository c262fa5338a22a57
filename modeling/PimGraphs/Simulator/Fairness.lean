import PimGraphs.Library.Waiting
import PimGraphs.Simulator.BurstSizes
import PimGraphs.Simulator.Throughput

/-!
# How long a burst waits on its port

When the byte budget of a cycle has room for one burst of every port, whatever
their sizes, each cycle admits the front burst of every port; so a burst waits
one cycle for each burst in front of it.  A smaller budget makes no such
promise: two ports of small bursts keep a large one, that fits the budget alone,
waiting as long as they last.
-/

namespace PimGraphs

namespace PseudoChannelMultiplexer

/-- No pending burst exceeds a size. -/
def Bounded (size : Nat) (mux : PseudoChannelMultiplexer) : Prop :=
  ∀ pcId, ∀ burst ∈ (mux.port pcId).pending, burst.bytes ≤ size

end PseudoChannelMultiplexer

namespace AdmissionConfig

variable {M : Type} {config : AdmissionConfig M}

/-- A cycle's budget has room for a burst of every port. -/
def Roomy (config : AdmissionConfig M) (size : Nat) : Prop :=
  config.overBudget (15 * size) size = false

/-- What fits after more fits after less. -/
theorem Roomy.allowed
    {size used bytes : Nat}
    (roomy : config.Roomy size)
    (usedLess : used ≤ 15 * size)
    (smaller : bytes ≤ size) :
    config.overBudget used bytes = false := by
  rw [Roomy, overBudget, Bool.and_eq_false_iff] at roomy
  rw [overBudget, Bool.and_eq_false_iff]
  refine roomy.imp_right fun fits => ?_
  rw [decide_eq_false_iff_not, not_lt] at fits ⊢
  exact (add_le_add (Nat.cast_le.mpr usedLess)
    (Nat.cast_le.mpr smaller)).trans fits

end AdmissionConfig

namespace WaveLoop

variable {M : Type} {config : AdmissionConfig M} {size : Nat}
variable {first : Driver M} {visited : List PcId} {loop : WaveLoop M}

/-- An empty port is skipped. -/
theorem visitPort_of_empty
    {pcId : PcId}
    (empty : (loop.driver.mux.port pcId).pending = []) :
    visitPort config loop pcId = loop := by
  simp [visitPort, PseudoChannelPort.front, empty]

/-- So is a front burst that exceeds what is left of the budget. -/
theorem visitPort_of_overBudget
    {pcId : PcId}
    {burst : MemoryBurst}
    {rest : List MemoryBurst}
    (front : (loop.driver.mux.port pcId).pending = burst :: rest)
    (exceeds : config.overBudget loop.tsvUsedThisTick burst.bytes = true) :
    visitPort config loop pcId = loop := by
  simp [visitPort, PseudoChannelPort.front, front, exceeds]

/-- A memory that never rejects takes any other front burst. -/
theorem exists_visitPort_of_allowed
    (accepts : config.ramulator.NeverRejects)
    (parallel : config.serializeStandardSparseReads = false)
    {pcId : PcId}
    {burst : MemoryBurst}
    {rest : List MemoryBurst}
    (front : (loop.driver.mux.port pcId).pending = burst :: rest)
    (allowed : config.overBudget loop.tsvUsedThisTick burst.bytes = false) :
    ∃ memory, visitPort config loop pcId =
      { loop with
        driver := loop.driver.acceptRead pcId burst memory
        tsvUsedThisTick := loop.tsvUsedThisTick + burst.bytes
        waveProgress := true } := by
  obtain ⟨memory, sent⟩ := Option.isSome_iff_exists.mp
    (accepts loop.driver.memory burst.addr loop.driver.nextSlot)
  refine ⟨memory, ?_⟩
  simp [visitPort, PseudoChannelPort.front, front, Driver.serialized, parallel,
    allowed, sent]

/-- A first sweep that has served each port it visited. -/
structure Rationed
    (size : Nat)
    (first : Driver M)
    (visited : List PcId)
    (loop : WaveLoop M) : Prop where
  used : loop.tsvUsedThisTick ≤ visited.length * size
  waiting : ∀ pcId ∉ visited,
    (loop.driver.mux.port pcId).pending = (first.mux.port pcId).pending
  served : ∀ pcId ∈ visited,
    (loop.driver.mux.port pcId).pending =
      (first.mux.port pcId).pending.tail

/-- A visit skips a port that is empty, and serves any other one. -/
theorem Rationed.visitPort
    (accepts : config.ramulator.NeverRejects)
    (parallel : config.serializeStandardSparseReads = false)
    (roomy : config.Roomy size)
    (bounded : first.mux.Bounded size)
    (rationed : Rationed size first visited loop)
    {pcId : PcId}
    (new : pcId ∉ visited)
    (room : visited.length ≤ 15) :
    Rationed size first (visited ++ [pcId])
      (WaveLoop.visitPort config loop pcId) := by
  have untouched := rationed.waiting pcId new
  have usedSoFar := rationed.used.trans (Nat.mul_le_mul_right size room)
  have notVisited {other : PcId} (absent : other ∉ visited ++ [pcId]) :
      other ∉ visited ∧ other ≠ pcId := by
    simpa using absent
  have afterwards {other : PcId} (member : other ∈ visited ++ [pcId]) :
      other ∈ visited ∧ other ≠ pcId ∨ other = pcId := by
    rcases List.mem_append.mp member with old | same
    · exact Or.inl ⟨old, fun same => new (same ▸ old)⟩
    · exact Or.inr (List.mem_singleton.mp same)
  cases pending : (loop.driver.mux.port pcId).pending with
  | nil =>
      rw [visitPort_of_empty pending]
      constructor
      · rw [List.length_append, Nat.add_mul]
        exact rationed.used.trans (Nat.le_add_right _ _)
      · intro other absent
        exact rationed.waiting other (notVisited absent).1
      · intro other member
        rcases afterwards member with ⟨old, -⟩ | rfl
        · exact rationed.served other old
        · rw [← untouched]
          simp [pending]
  | cons burst rest =>
      have smaller : burst.bytes ≤ size := by
        apply bounded pcId
        rw [← untouched, pending]
        exact List.mem_cons_self
      obtain ⟨memory, admitted⟩ := exists_visitPort_of_allowed accepts
        parallel pending (roomy.allowed usedSoFar smaller)
      rw [admitted]
      constructor
      · rw [List.length_append, List.length_singleton, Nat.add_mul,
          Nat.one_mul]
        exact Nat.add_le_add rationed.used smaller
      · intro other absent
        obtain ⟨older, differs⟩ := notVisited absent
        simp only [Driver.acceptRead,
          PseudoChannelMultiplexer.port_advanceAfterIssue,
          PseudoChannelMultiplexer.port_setPort, if_neg differs]
        exact rationed.waiting other older
      · intro other member
        simp only [Driver.acceptRead,
          PseudoChannelMultiplexer.port_advanceAfterIssue,
          PseudoChannelMultiplexer.port_setPort]
        rcases afterwards member with ⟨old, differs⟩ | rfl
        · rw [if_neg differs]
          exact rationed.served other old
        · rw [if_pos rfl, PseudoChannelPort.pending_pop, untouched]

/-- So does visiting some new ports in turn. -/
theorem Rationed.visits
    (accepts : config.ramulator.NeverRejects)
    (parallel : config.serializeStandardSparseReads = false)
    (roomy : config.Roomy size)
    (bounded : first.mux.Bounded size)
    (rationed : Rationed size first visited loop)
    (ports : List PcId)
    (distinct : (visited ++ ports).Nodup)
    (few : (visited ++ ports).length ≤ 16) :
    Rationed size first (visited ++ ports)
      (ports.foldl (WaveLoop.visitPort config) loop) := by
  induction ports generalizing visited loop with
  | nil =>
      rw [List.append_nil]
      exact rationed
  | cons port rest inductionHypothesis =>
      have new : port ∉ visited := by
        intro old
        exact (List.nodup_append.mp distinct).2.2 port old port
          List.mem_cons_self rfl
      have room : visited.length ≤ 15 := by
        rw [List.length_append, List.length_cons] at few
        omega
      have next := rationed.visitPort accepts parallel roomy bounded new room
      rw [List.append_cons] at distinct few ⊢
      exact inductionHypothesis next distinct few

/-- The first sweep of a cycle takes one burst from every port. -/
theorem pending_firstSweep
    (accepts : config.ramulator.NeverRejects)
    (parallel : config.serializeStandardSparseReads = false)
    (roomy : config.Roomy size)
    (bounded : first.mux.Bounded size)
    (pcId : PcId) :
    ((WaveLoop.sweep config { driver := first }).driver.mux.port
        pcId).pending =
      (first.mux.port pcId).pending.tail := by
  have start : Rationed size first []
      { driver := first, waveCount := 1, waveProgress := false } :=
    ⟨Nat.zero_le _, fun _ _ => rfl, fun _ member => absurd member
      List.not_mem_nil⟩
  have swept := start.visits accepts parallel roomy bounded
    (RoundRobin.order first.mux.roundRobinCursor)
    (RoundRobin.nodup_order _)
    (Nat.le_of_eq (RoundRobin.length_order _))
  exact swept.served pcId (RoundRobin.mem_order _ pcId)

end WaveLoop

namespace Driver

variable {M : Type} {config : AdmissionConfig M} {size : Nat}
variable {first last : Driver M}

/-- The bursts admitted from a port so far, in order. -/
def admittedFrom (driver : Driver M) (pcId : PcId) : List MemoryBurst :=
  driver.history.filterMap (Event.admittedOn pcId)

/-- What is admitted from a port is what its front has lost. -/
theorem Admits.exists_taken (admits : Admits config first last)
    (pcId : PcId) :
    ∃ now, last.admittedFrom pcId = first.admittedFrom pcId ++ now ∧
      (first.mux.port pcId).pending = now ++ (last.mux.port pcId).pending := by
  have longer : first.admittedFrom pcId <+: last.admittedFrom pcId :=
    (Evolves.refl.admits admits).history_extends.filterMap _
  obtain ⟨now, grown⟩ := longer
  refine ⟨now, grown.symm, ?_⟩
  have fifo := admits.fifo pcId
  change first.admittedFrom pcId ++ _ = last.admittedFrom pcId ++ _ at fifo
  rw [← grown, List.append_assoc] at fifo
  exact List.append_cancel_left fifo

/-- Every cycle takes something from every port that is not empty. -/
theorem exists_taken_admissionLoop
    (accepts : config.ramulator.NeverRejects)
    (parallel : config.serializeStandardSparseReads = false)
    (roomy : config.Roomy size)
    (bounded : first.mux.Bounded size)
    (pcId : PcId) :
    ∃ now,
      (first.admissionLoop config).driver.admittedFrom pcId =
          first.admittedFrom pcId ++ now ∧
        (first.mux.port pcId).pending =
          now ++ ((first.admissionLoop config).driver.mux.port pcId).pending ∧
          ((first.mux.port pcId).pending ≠ [] → now ≠ []) := by
  obtain ⟨now, grown, moved⟩ :=
    (admits_admissionLoop config first).exists_taken pcId
  refine ⟨now, grown, moved, ?_⟩
  rintro waiting rfl
  have later : Admits config
      (WaveLoop.sweep config { driver := first }).driver
      (first.admissionLoop config).driver := by
    rw [admissionLoop_eq]
    exact Admits.runWaves 255 _ .refl
  obtain ⟨rest, -, suffix⟩ := later.exists_taken pcId
  rw [WaveLoop.pending_firstSweep accepts parallel roomy bounded] at suffix
  have lengths := congrArg List.length suffix
  rw [List.length_append, List.length_tail, ← List.nil_append
    (((first.admissionLoop config).driver.mux.port pcId).pending),
    ← moved] at lengths
  have positive := List.length_pos_iff.mpr waiting
  omega

end Driver

theorem Moves.admittedFrom
    {M : Type}
    {attached : Option Nat}
    {before after : Traffic M}
    (moves : Moves attached before after)
    (pcId : PcId) :
    after.2.admittedFrom pcId = before.2.admittedFrom pcId := by
  induction moves with
  | refl => rfl
  | enqueue burst _ inductionHypothesis =>
      rw [← inductionHypothesis, Driver.admittedFrom, Driver.enqueue,
        List.filterMap_append]
      exact List.append_nil _
  | route router producer bursts _ inductionHypothesis =>
      rw [← inductionHypothesis, Driver.admittedFrom, Driver.recordRouted,
        List.filterMap_append, List.filterMap_map]
      simp [Function.comp_def, Event.admittedOn, Driver.admittedFrom]
  | deliver ref _ _ inductionHypothesis =>
      rw [← inductionHypothesis]
      unfold Driver.enqueueAll
      apply Sweep.observe_foldl
        (fun reached : Driver M => reached.admittedFrom pcId)
      intro reached burst
      rw [Driver.admittedFrom, Driver.enqueue, List.filterMap_append]
      exact List.append_nil _

namespace RunState

variable {F M : Type} {config : RunConfig F M} {size : Nat}
variable [Zero F] [One F] [Add F] [Sub F] [Mul F] [Div F] [NatCast F]

/-- Bursts waiting on a port in front of a cycle of a run. -/
def waitingOn
    (config : RunConfig F M)
    (state : RunState F M)
    (pcId : PcId)
    (time : Nat) : List MemoryBurst :=
  ((state.clocked config time).driver.mux.port pcId).pending

/-- Bursts admitted from a port before a cycle of a run. -/
def admittedBefore
    (config : RunConfig F M)
    (state : RunState F M)
    (pcId : PcId)
    (time : Nat) : List MemoryBurst :=
  (state.clocked config time).driver.admittedFrom pcId

/-- A run serves every port in every cycle. -/
theorem served_waitingOn
    (accepts : config.admission.ramulator.NeverRejects)
    (parallel : config.admission.serializeStandardSparseReads = false)
    (roomy : config.admission.Roomy size)
    (state : RunState F M)
    (bounded : ∀ time, (state.beforeAdmission config time).mux.Bounded size)
    (pcId : PcId) :
    Waiting.Served (state.waitingOn config pcId)
      (state.admittedBefore config pcId) where
  round := by
    intro time
    have moves : Moves config.attached.router
        (state.clocked config time).traffic
        ((state.clocked config time).tickComponents config).traffic :=
      tickComponents_moves config .refl
    obtain ⟨now, grown, moved, some⟩ := Driver.exists_taken_admissionLoop
      accepts parallel roomy (bounded time) pcId
    obtain ⟨arrived, queued⟩ := moves.queues.pending pcId
    refine ⟨now, arrived, ?_, ?_, ?_⟩
    · rw [waitingOn, waitingOn, clocked_succ, mux_cycle]
      exact queued.trans moved
    · rw [admittedBefore, clocked_succ, driver_cycle]
      refine (Driver.admittedOn_completeAll pcId _ _).trans ?_
      refine grown.trans (congrArg (· ++ now) ?_)
      exact moves.admittedFrom pcId
    · intro waiting
      apply some
      intro none
      rw [waitingOn] at waiting
      exact waiting (List.append_eq_nil_iff.mp (queued.trans none)).1

end RunState

namespace RamulatorHbmSimulator

open RunState

variable {F M : Type} [Zero F] [One F] [Add F] [Sub F] [Mul F] [Div F]
variable [NatCast F]

/-- On a memory that accepts every read, with room in a cycle's budget for one
burst of every port, a burst that has `position` others in front of it on its
port is admitted within `position + 1` cycles, and they before it, whatever is
attached. -/
theorem run_serves_every_port
    (simulator : RamulatorHbmSimulator F M)
    (accepts : simulator.admission.ramulator.NeverRejects)
    (parallel : simulator.admission.serializeStandardSparseReads = false)
    (size : Nat)
    (roomy : simulator.admission.Roomy size)
    (usesSizes : simulator.UsesSizes fun bytes => bytes.toNat ≤ size)
    (pcId : PcId)
    (time position : Nat) :
    simulator.enter.admittedBefore simulator.runConfig pcId time ++
        (simulator.enter.waitingOn simulator.runConfig pcId time).take
          (position + 1) <+:
      simulator.enter.admittedBefore simulator.runConfig pcId
        (time + (position + 1)) := by
  have bounded (time : Nat) : (simulator.enter.beforeAdmission
      simulator.runConfig time).mux.Bounded size := fun _ _ pending =>
    usesSizes.of_mem_pending ((simulator.turns_before time).trans
      (turns_tickComponents simulator.runConfig _)) pending
  have served := served_waitingOn accepts parallel roomy simulator.enter
    bounded pcId
  exact served.take_isPrefix time (position + 1)

/-- Two sequential reads on each port, and a core on vault 3 that loads twice,
with a budget of 1024 bytes a cycle. -/
def wideReads : RamulatorHbmSimulator ℚ (List (Nat × Nat)) :=
  { sequentialReads with
    admission := { sequentialReads.admission with tsvPeakGbps := 1024 }
    attached :=
      { vpus := fun vault => if vault = 3 then some 0 else none
        router := some 0 }
    store := sequentialReads.store.setCore 0
      ((SIMDCore.initial 3 0 0 0 32).loadProgram
        [{ op := .load }, { op := .load, memAddr := 0x80000000 }]) }

theorem usesSizes_wideReads :
    wideReads.UsesSizes fun bytes => bytes.toNat ≤ 64 := by
  have empty : PseudoChannelMultiplexer.Uniform (64 : UInt32).toNat {} :=
    fun _ _ member => absurd member List.not_mem_nil
  have loaded : wideReads.mux.Uniform 64 :=
    PseudoChannelMultiplexer.Uniform.loadSequentialWorkload empty 2
  constructor
  case onTheWay =>
    intro burst member
    have onPort : burst ∈ (0 : Multiset MemoryBurst) +
        wideReads.mux.pendingBursts + 0 := member
    rw [zero_add, add_zero] at onPort
    obtain ⟨pcId, -, pending⟩ := Multiset.mem_sum.mp onPort
    exact Nat.le_of_eq (loaded pcId burst pending)
  case sized =>
    refine ⟨fun _ none => absurd none List.not_mem_nil, ?_,
      fun _ attached => absurd attached.symm (Option.some_ne_none _),
      fun _ attached => absurd attached.symm (Option.some_ne_none _),
      fun attached => attached.elim (absurd rfl) (absurd rfl)⟩
    intro vault ref isAttached inst member _
    have isCore : (if vault = 3 then some 0 else none) = some ref := isAttached
    have same : ref = 0 := by
      split at isCore
      · exact (Option.some.inj isCore).symm
      · exact absurd isCore.symm (Option.some_ne_none _)
    subst same
    have small : ∀ inst ∈ ([{ op := .load },
        { op := .load, memAddr := 0x80000000 }] : List SIMDInstruction),
        inst.sizeBytes.toNat ≤ 64 := by
      decide
    exact small inst member

/-- Both reads of port 3 are admitted within two cycles, and the first load of
its core in the cycle it comes to the port. -/
theorem wideReads_serves_every_port :
    (wideReads.enter.admittedBefore wideReads.runConfig 3 0 ++
        (wideReads.enter.waitingOn wideReads.runConfig 3 0).take (1 + 1) <+:
      wideReads.enter.admittedBefore wideReads.runConfig 3 (0 + (1 + 1))) ∧
    (wideReads.enter.admittedBefore wideReads.runConfig 3 2 ++
        (wideReads.enter.waitingOn wideReads.runConfig 3 2).take (0 + 1) <+:
      wideReads.enter.admittedBefore wideReads.runConfig 3 (2 + (0 + 1))) := by
  have roomy : wideReads.admission.Roomy 64 := by
    unfold AdmissionConfig.Roomy
    decide +kernel
  exact ⟨run_serves_every_port wideReads (fun _ _ _ => rfl) rfl 64 roomy
      usesSizes_wideReads 3 0 1,
    run_serves_every_port wideReads (fun _ _ _ => rfl) rfl 64 roomy
      usesSizes_wideReads 3 2 0⟩

end RamulatorHbmSimulator

end PimGraphs
