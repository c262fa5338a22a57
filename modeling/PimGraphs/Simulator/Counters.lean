import PimGraphs.Simulator.Loop

/-!
# Counters are write-only

What a call has counted so far influences nothing it does.  Crediting a state
with counts of an earlier call therefore commutes with every step; the flag
for the hidden-state read and the recorded statistics, which the steps before
the vertex program do not touch either, are replaced along with it.
-/

namespace PimGraphs

/-- What a call has counted so far. -/
structure Counts where
  completed : Nat
  bytesDone : Nat
  tsvBytesAdmitted : Nat
  history : List Event
  verticesProcessed : Nat
  cycles : Nat

namespace Driver

variable {M : Type} (counts : Counts)

/-- A driver with the counts of an earlier call added to its own. -/
def credit (driver : Driver M) : Driver M :=
  { driver with
    completed := counts.completed + driver.completed
    bytesDone := counts.bytesDone + driver.bytesDone
    tsvBytesAdmitted := counts.tsvBytesAdmitted + driver.tsvBytesAdmitted
    history := counts.history ++ driver.history }

@[simp] theorem mux_credit (driver : Driver M) :
    (driver.credit counts).mux = driver.mux := rfl

@[simp] theorem memory_credit (driver : Driver M) :
    (driver.credit counts).memory = driver.memory := rfl

@[simp] theorem nextSlot_credit (driver : Driver M) :
    (driver.credit counts).nextSlot = driver.nextSlot := rfl

@[simp] theorem outstandingRequests_credit (driver : Driver M) :
    (driver.credit counts).outstandingRequests =
      driver.outstandingRequests := rfl

@[simp] theorem serialized_credit
    (config : AdmissionConfig M)
    (driver : Driver M)
    (burst : MemoryBurst) :
    (driver.credit counts).serialized config burst =
      driver.serialized config burst := rfl

theorem credit_enqueue
    (driver : Driver M)
    (via : Option Nat)
    (burst : MemoryBurst) :
    (driver.credit counts).enqueue via burst =
      (driver.enqueue via burst).credit counts := by
  simp [credit, enqueue]

theorem credit_enqueueAll
    (driver : Driver M)
    (via : Option Nat)
    (bursts : List MemoryBurst) :
    (driver.credit counts).enqueueAll via bursts =
      (driver.enqueueAll via bursts).credit counts := by
  unfold enqueueAll
  apply List.foldl_hom (fun driver : Driver M => driver.credit counts)
  intro driver burst
  apply credit_enqueue

theorem credit_recordRouted
    (driver : Driver M)
    (router : Nat)
    (producer : Producer)
    (bursts : List MemoryBurst) :
    (driver.credit counts).recordRouted router producer bursts =
      (driver.recordRouted router producer bursts).credit counts := by
  simp [credit, recordRouted]

theorem credit_acceptRead
    (driver : Driver M)
    (pcId : PcId)
    (burst : MemoryBurst)
    (memory : M) :
    (driver.credit counts).acceptRead pcId burst memory =
      (driver.acceptRead pcId burst memory).credit counts := by
  simp [credit, acceptRead, Nat.add_assoc]

theorem credit_finish
    (driver : Driver M)
    (slot : Nat) :
    (driver.credit counts).finish slot =
      ((driver.finish slot).1.credit counts, (driver.finish slot).2) := by
  cases found : driver.inflight.lookup slot with
  | none => simp [finish, credit, found]
  | some request =>
      cases live : request.live <;>
        simp [finish, credit, found, live, Nat.add_assoc]

theorem credit_recordRun
    (driver : Driver M)
    (slot : Nat)
    (callback : Callback) :
    (driver.credit counts).recordRun slot callback =
      (driver.recordRun slot callback).credit counts := by
  simp [credit, recordRun]

end Driver

namespace WaveLoop

variable {M : Type} (config : AdmissionConfig M) (counts : Counts)

/-- A wave loop on a credited driver. -/
def credit (loop : WaveLoop M) : WaveLoop M :=
  { loop with driver := loop.driver.credit counts }

@[simp] theorem driver_credit (loop : WaveLoop M) :
    (loop.credit counts).driver = loop.driver.credit counts := rfl

@[simp] theorem tsvUsedThisTick_credit (loop : WaveLoop M) :
    (loop.credit counts).tsvUsedThisTick = loop.tsvUsedThisTick := rfl

@[simp] theorem waveCount_credit (loop : WaveLoop M) :
    (loop.credit counts).waveCount = loop.waveCount := rfl

@[simp] theorem waveProgress_credit (loop : WaveLoop M) :
    (loop.credit counts).waveProgress = loop.waveProgress := rfl

theorem credit_visitPort
    (loop : WaveLoop M)
    (pcId : PcId) :
    (loop.credit counts).visitPort config pcId =
      (loop.visitPort config pcId).credit counts := by
  simp only [visitPort, driver_credit, Driver.mux_credit,
    Driver.serialized_credit, tsvUsedThisTick_credit, Driver.memory_credit,
    Driver.nextSlot_credit, Driver.credit_acceptRead]
  split
  · rfl
  · split
    · rfl
    · split
      · rfl
      · split <;> rfl

theorem credit_sweep (loop : WaveLoop M) :
    (loop.credit counts).sweep config = (loop.sweep config).credit counts := by
  unfold sweep
  rw [← List.foldl_hom (credit counts) (credit_visitPort config counts)]
  rfl

theorem credit_runWaves
    (fuel : Nat)
    (loop : WaveLoop M) :
    runWaves config fuel (loop.credit counts) =
      (runWaves config fuel loop).credit counts := by
  induction fuel generalizing loop with
  | zero => rfl
  | succ fuel inductionHypothesis =>
      simp only [runWaves, waveProgress_credit, waveCount_credit, credit_sweep,
        inductionHypothesis]
      exact (apply_ite (credit counts) _ _ _).symm

theorem credit_admissionLoop (driver : Driver M) :
    ((driver.credit counts).admissionLoop config).driver =
      (driver.admissionLoop config).driver.credit counts :=
  congrArg WaveLoop.driver
    (credit_runWaves config counts kMaxWavesPerTick { driver := driver })

end WaveLoop

namespace RunState

variable {F M : Type} (config : RunConfig F M)
variable (counts : Counts) (issued : Bool) (stats : VertexProgramStats)

/-- A state with the counts of an earlier call added, and with its flag for
the hidden-state read and its statistics replaced. -/
def credit (state : RunState F M) : RunState F M :=
  { state with
    driver := state.driver.credit counts
    loadHIssued := issued
    verticesProcessed := counts.verticesProcessed + state.verticesProcessed
    vertexProgramStats := stats
    cycles := counts.cycles + state.cycles }

@[simp] theorem store_credit (state : RunState F M) :
    (state.credit counts issued stats).store = state.store := rfl

@[simp] theorem driver_credit (state : RunState F M) :
    (state.credit counts issued stats).driver =
      state.driver.credit counts := rfl

@[simp] theorem loadHIssued_credit (state : RunState F M) :
    (state.credit counts issued stats).loadHIssued = issued := rfl

theorem hasWork_credit (state : RunState F M) :
    (state.credit counts issued stats).hasWork config =
      state.hasWork config := rfl

theorem credit_route
    (state : RunState F M)
    (router : Nat)
    (producer : Producer)
    (bursts : List MemoryBurst) :
    (state.credit counts issued stats).route router producer bursts =
      (state.route router producer bursts).credit counts issued stats := by
  simp only [route, driver_credit, Driver.credit_recordRouted]
  rfl

theorem credit_issuePiccolo (state : RunState F M) :
    (state.credit counts issued stats).issuePiccolo config =
      (state.issuePiccolo config).credit counts issued stats := by
  unfold issuePiccolo
  cases config.attached.piccolo with
  | none => rfl
  | some ref =>
      simp only [store_credit, driver_credit, Driver.credit_enqueueAll]
      split <;> rfl

theorem credit_tickRouter (state : RunState F M) :
    (state.credit counts issued stats).tickRouter config =
      (state.tickRouter config).credit counts issued stats := by
  unfold tickRouter
  cases config.attached.router with
  | none => rfl
  | some ref =>
      simp only [store_credit, driver_credit, Driver.credit_enqueueAll]
      rfl

theorem credit_tickPsau
    [Add F]
    (state : RunState F M)
    (inputs : TreeInputs F) :
    (state.credit counts issued stats).tickPsau config inputs =
      (state.tickPsau config inputs).credit counts issued stats := by
  unfold tickPsau
  cases config.attached.psau with
  | none => rfl
  | some ref =>
      simp only [store_credit]
      split
      · exact credit_route counts issued stats { state with store := _ } _ _ _
      · rfl

theorem credit_runAdmission (state : RunState F M) :
    (state.credit counts issued stats).runAdmission config =
      (state.runAdmission config).credit counts issued stats := by
  simp only [runAdmission, driver_credit, WaveLoop.credit_admissionLoop]
  rfl

section Memory

variable [Zero F] [One F]

theorem credit_completeSlot
    (state : RunState F M)
    (slot : Nat) :
    (state.credit counts issued stats).completeSlot slot =
      (state.completeSlot slot).credit counts issued stats := by
  simp only [completeSlot, driver_credit, store_credit, Driver.credit_finish,
    Driver.credit_recordRun]
  split
  · rfl
  · rfl

theorem credit_tickMemory (state : RunState F M) :
    (state.credit counts issued stats).tickMemory config =
      (state.tickMemory config).credit counts issued stats := by
  unfold tickMemory
  simp only
  rw [← List.foldl_hom (credit counts issued stats)
    (credit_completeSlot counts issued stats)]
  rfl

end Memory

variable [Zero F] [One F] [Add F] [Sub F] [Mul F] [Div F] [NatCast F]

theorem credit_tickCore
    (state : RunState F M)
    (ref : Nat) :
    (state.credit counts issued stats).tickCore config ref =
      (state.tickCore config ref).credit counts issued stats := by
  unfold tickCore
  simp only [store_credit]
  exact credit_route counts issued stats { state with store := _ } _ _ _

theorem credit_tickVault
    (progress : RunState F M × TreeInputs F)
    (vault : Fin 16) :
    tickVault config
        (progress.1.credit counts issued stats, progress.2) vault =
      ((tickVault config progress vault).1.credit counts issued stats,
        (tickVault config progress vault).2) := by
  unfold tickVault
  cases config.attached.vpus vault with
  | none => rfl
  | some coreRef =>
      simp only [credit_tickCore, store_credit]
      split <;> rfl

theorem credit_tickVaults (state : RunState F M) :
    (state.credit counts issued stats).tickVaults config =
      ((state.tickVaults config).1.credit counts issued stats,
        (state.tickVaults config).2) := by
  have ticked (progress : RunState F M × TreeInputs F) :
      (List.finRange 16).foldl (tickVault config)
          (progress.1.credit counts issued stats, progress.2) =
        (((List.finRange 16).foldl (tickVault config) progress).1.credit counts
            issued stats,
          ((List.finRange 16).foldl (tickVault config) progress).2) :=
    List.foldl_hom
      (fun progress : RunState F M × TreeInputs F =>
        (progress.1.credit counts issued stats, progress.2))
      (credit_tickVault config counts issued stats)
  exact ticked (state, { vectors := 0, valid := false })

theorem credit_tickDatapath (state : RunState F M) :
    (state.credit counts issued stats).tickDatapath config =
      ((state.tickDatapath config).1.credit counts issued stats,
        (state.tickDatapath config).2) := by
  simp only [tickDatapath, credit_issuePiccolo, credit_tickRouter,
    credit_tickVaults, credit_tickPsau]

theorem credit_advanceProgram
    (state : RunState F M)
    (ref : Nat)
    (inputs : TreeInputs F) :
    (state.credit counts issued stats).advanceProgram config ref inputs =
      (state.advanceProgram config ref inputs).credit counts issued stats := by
  simp only [advanceProgram, store_credit, driver_credit,
    Driver.credit_enqueueAll]
  rfl

end RunState

end PimGraphs
