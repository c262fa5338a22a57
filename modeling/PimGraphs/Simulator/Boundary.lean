import PimGraphs.Memory.FixedLatency
import PimGraphs.Simulator.Accounting
import PimGraphs.Simulator.Defs

/-!
# Accounts at cycle boundaries

Before admission the components only queue bursts, on a router or on a port;
admission and the memory's tick do the rest of the accounting.  So the accounts
of a call hold after each of its cycles.
-/

namespace PimGraphs

/-- The routers and the driver: what bursts move through. -/
abbrev Traffic (M : Type) := (Nat → HierarchicalRouter) × Driver M

/-- What the components can do to the traffic of a cycle before admission:
queue a burst on a port, hand bursts to a router, and clock the attached
router. -/
inductive Moves {M : Type} (attached : Option Nat) (first : Traffic M) :
    Traffic M → Prop
  | refl : Moves attached first first
  | enqueue {last : Traffic M} (burst : MemoryBurst) :
      Moves attached first last →
        Moves attached first (last.1, last.2.enqueue none burst)
  | route {last : Traffic M} (ref : Nat) (producer : Producer)
      (bursts : List MemoryBurst) :
      Moves attached first last →
        Moves attached first
          (Function.update last.1 ref
            (bursts.foldl HierarchicalRouter.enqueueRequest (last.1 ref)),
            last.2.recordRouted ref producer bursts)
  | deliver {last : Traffic M} (ref : Nat) :
      attached = some ref →
      Moves attached first last →
        Moves attached first
          (Function.update last.1 ref (last.1 ref).tick.1,
            last.2.enqueueAll (some ref) (last.1 ref).tick.2)

namespace Moves

variable {M : Type} {attached : Option Nat} {first last : Traffic M}

theorem enqueueAll
    (moves : Moves attached first last)
    (bursts : List MemoryBurst) :
    Moves attached first (last.1, last.2.enqueueAll none bursts) := by
  unfold Driver.enqueueAll
  induction bursts generalizing last with
  | nil => exact moves
  | cons burst rest inductionHypothesis =>
      exact inductionHypothesis (moves.enqueue burst)

theorem accounts
    {config : AdmissionConfig M}
    {initial : Driver M}
    (moves : Moves attached first last)
    (accounts : Driver.Accounts config initial first.2) :
    Driver.Accounts config initial last.2 := by
  induction moves with
  | refl => exact accounts
  | enqueue burst _ inductionHypothesis =>
      exact inductionHypothesis.enqueue none burst
  | route ref producer bursts _ inductionHypothesis =>
      exact inductionHypothesis.recordRouted ref producer bursts
  | deliver ref _ _ inductionHypothesis =>
      exact inductionHypothesis.enqueueAll _ _

theorem held
    {config : AdmissionConfig M}
    (moves : Moves attached first last)
    (held : Driver.Held config first.2) :
    Driver.Held config last.2 := by
  induction moves with
  | refl => exact held
  | enqueue _ _ inductionHypothesis => exact inductionHypothesis
  | route _ _ _ _ inductionHypothesis => exact inductionHypothesis
  | deliver ref _ _ inductionHypothesis =>
      exact inductionHypothesis.enqueueAll _ _

end Moves

namespace RunState

variable {F M : Type}

/-- The traffic of a state. -/
def traffic (state : RunState F M) : Traffic M :=
  (state.store.routers, state.driver)

/-! ## One cycle -/

section Moves

variable {first : Traffic M} {state : RunState F M} (config : RunConfig F M)

theorem issuePiccolo_moves
    (before : Moves config.attached.router first state.traffic) :
    Moves config.attached.router first
      (state.issuePiccolo config).traffic := by
  unfold issuePiccolo
  cases config.attached.piccolo with
  | none => exact before
  | some ref =>
      simp only
      split
      · exact before
      · exact before.enqueueAll _

theorem tickRouter_moves
    (before : Moves config.attached.router first state.traffic) :
    Moves config.attached.router first (state.tickRouter config).traffic := by
  unfold tickRouter
  split
  case h_1 => exact before
  case h_2 ref attached => exact before.deliver ref attached

theorem requestHidden_moves
    (before : Moves config.attached.router first state.traffic)
    (ref : Nat) :
    Moves config.attached.router first
      (state.requestHidden config ref).traffic := by
  unfold requestHidden
  simp only
  split
  · exact before
  · split
    · exact before.route _ _ _
    · exact before

theorem writebackVertex_moves
    (before : Moves config.attached.router first state.traffic)
    (ref : Nat) :
    Moves config.attached.router first
      (state.writebackVertex config ref).traffic := by
  unfold writebackVertex
  simp only
  split
  · exact before
  · split
    · exact before.route _ _ _
    · exact before

@[simp] theorem recordStats_traffic
    (state : RunState F M)
    (ref : Nat) : (state.recordStats ref).traffic = state.traffic := by
  unfold recordStats
  split <;> rfl

theorem tickPsau_moves
    [Add F]
    (before : Moves config.attached.router first state.traffic)
    (inputs : TreeInputs F) :
    Moves config.attached.router first
      (state.tickPsau config inputs).traffic := by
  unfold tickPsau
  split
  · exact before
  · simp only
    split
    · exact before.route _ _ _
    · exact before

variable [Zero F] [One F] [Add F] [Sub F] [Mul F] [Div F] [NatCast F]

theorem tickCore_moves
    (before : Moves config.attached.router first state.traffic)
    (ref : Nat) :
    Moves config.attached.router first
      (state.tickCore config ref).traffic := by
  unfold tickCore route traffic
  simp only [Store.setRouter, SIMDCore.routers_installTick]
  exact before.route _ _ _

theorem tickVault_moves
    {progress : RunState F M × TreeInputs F}
    (before : Moves config.attached.router first progress.1.traffic)
    (vault : Fin 16) :
    Moves config.attached.router first
      (tickVault config progress vault).1.traffic := by
  unfold tickVault
  cases config.attached.vpus vault with
  | none => exact before
  | some coreRef =>
      have after := tickCore_moves config before coreRef
      simp only
      split <;> exact after

theorem tickVaults_moves
    (before : Moves config.attached.router first state.traffic) :
    Moves config.attached.router first
      (state.tickVaults config).1.traffic := by
  unfold tickVaults
  refine List.foldlRecOn
    (motive := fun progress : RunState F M × TreeInputs F =>
      Moves config.attached.router first progress.1.traffic) _ _ before ?_
  intro progress progressBefore vault _
  exact tickVault_moves config progressBefore vault

theorem advanceProgram_moves
    (before : Moves config.attached.router first state.traffic)
    (ref : Nat)
    (inputs : TreeInputs F) :
    Moves config.attached.router first
      (state.advanceProgram config ref inputs).traffic := by
  unfold advanceProgram traffic
  simp only [Store.setProgram, TGNVertexProgram.routers_tick]
  exact before.enqueueAll _

theorem tickVertexProgram_moves
    (before : Moves config.attached.router first state.traffic)
    (inputs : TreeInputs F) :
    Moves config.attached.router first
      (state.tickVertexProgram config inputs).traffic := by
  unfold tickVertexProgram
  cases config.attached.vertexProgram with
  | none => exact before
  | some ref =>
      have afterReads := advanceProgram_moves config before ref inputs
      have afterHidden := requestHidden_moves config afterReads ref
      have afterWriteback := writebackVertex_moves config afterHidden ref
      simp only [recordStats_traffic]
      exact afterWriteback

/-- Before admission, a cycle only moves bursts towards the ports. -/
theorem tickComponents_moves
    (before : Moves config.attached.router first state.traffic) :
    Moves config.attached.router first
      (state.tickComponents config).traffic := by
  have afterIssue := issuePiccolo_moves config before
  have afterRouter := tickRouter_moves config afterIssue
  have afterVaults := tickVaults_moves config afterRouter
  have afterPsau := tickPsau_moves config afterVaults
    (((state.issuePiccolo config).tickRouter config).tickVaults config).2
  exact tickVertexProgram_moves config afterPsau _

end Moves

section Cycle

variable {config : RunConfig F M} {initial : Driver M} {state : RunState F M}

/-- A fired slot completes, and then its burst's own callback has run. -/
theorem completeSlot_eq
    [Zero F]
    [One F]
    (state : RunState F M)
    (slot : Nat) :
    state.completeSlot slot =
      { state with
        driver := (state.driver.complete slot).1
        store := match (state.driver.complete slot).2 with
          | none => state.store
          | some callback => runCallback state.store callback } := by
  unfold completeSlot Driver.complete
  simp only
  split
  case h_1 none => rw [none, Option.elim_none]
  case h_2 callback due => rw [due, Option.elim_some]

@[simp] theorem completeSlot_driver
    [Zero F]
    [One F]
    (state : RunState F M)
    (slot : Nat) :
    (state.completeSlot slot).driver = (state.driver.complete slot).1 := by
  rw [completeSlot_eq]

theorem completeSlot_history
    [Zero F]
    [One F]
    {slot : Nat}
    {request : Request}
    (found : state.driver.inflight.lookup slot = some request) :
    (state.completeSlot slot).driver.history =
      state.driver.history ++ completionEvents slot request.burst := by
  rw [completeSlot_driver]
  exact Driver.complete_history found

@[simp] theorem foldl_completeSlot_driver
    [Zero F]
    [One F]
    (fired : List Nat)
    (state : RunState F M) :
    (fired.foldl completeSlot state).driver =
      state.driver.completeAll fired :=
  (List.foldl_hom driver fun _ _ => (completeSlot_driver _ _).symm).symm

/-- What holds of a driver at every boundary between two cycles. -/
structure Balanced
    (config : RunConfig F M)
    (initial driver : Driver M) : Prop where
  accounts : Driver.Accounts config.admission initial driver
  held : Driver.Held config.admission driver

theorem Balanced.tickMemory
    [Zero F]
    [One F]
    (balanced : Balanced config initial state.driver) :
    Balanced config initial (state.tickMemory config).driver := by
  unfold RunState.tickMemory
  simp only [foldl_completeSlot_driver]
  constructor
  case accounts =>
    apply Driver.Accounts.completeAll
    exact { balanced.accounts with }
  case held =>
    apply Driver.held_completeAll
    rw [← config.admission.ramulator.held_tick]
    exact balanced.held

theorem Balanced.runAdmission
    (balanced : Balanced config initial state.driver) :
    Balanced config initial (state.runAdmission config).driver where
  accounts := WaveLoop.kept_admissionLoop
    (WaveLoop.keptByAdmission_accounts initial) balanced.accounts
  held := WaveLoop.kept_admissionLoop WaveLoop.keptByAdmission_held
    balanced.held

variable [Zero F] [One F] [Add F] [Sub F] [Mul F] [Div F] [NatCast F]

theorem Balanced.tickComponents
    (balanced : Balanced config initial state.driver) :
    Balanced config initial (state.tickComponents config).driver := by
  have moves : Moves config.attached.router state.traffic
      (state.tickComponents config).traffic :=
    tickComponents_moves config .refl
  exact ⟨moves.accounts balanced.accounts, moves.held balanced.held⟩

/-- A cycle keeps the accounts. -/
theorem Balanced.cycle
    (balanced : Balanced config initial state.driver) :
    Balanced config initial (state.cycle config).driver :=
  balanced.tickComponents.runAdmission.tickMemory

/-- So does any number of them. -/
theorem Balanced.loop
    (cycles : Nat)
    (balanced : Balanced config initial state.driver) :
    Balanced config initial (state.loop config cycles).driver := by
  induction cycles generalizing state with
  | zero => exact balanced
  | succ cycles inductionHypothesis =>
      unfold RunState.loop
      split
      · exact inductionHypothesis balanced.cycle
      · exact balanced

end Cycle

end RunState

namespace Driver

variable {M : Type}

/-- The books of a call whose ports held `ports` when it began, with every
read in flight its own. -/
structure Books
    (config : AdmissionConfig M)
    (ports : PseudoChannelMultiplexer)
    (driver : Driver M) : Prop where
  fifo : ∀ pcId,
    (ports.port pcId).pending ++
        driver.history.filterMap (Event.enqueuedOn pcId) =
      driver.history.filterMap (Event.admittedOn pcId) ++
        (driver.mux.port pcId).pending
  distinct :
    ((driver.history.filterMap Event.admission).map Prod.fst).Nodup
  once : (driver.history.filterMap Event.admission).Perm
    (driver.history.filterMap Event.completion ++ driver.inFlightBursts)
  held : config.ramulator.held driver.memory =
    ((driver.inFlightBursts.map Prod.fst : List Nat) : Multiset Nat)
  outstanding : driver.outstandingRequests = driver.inFlightBursts.length
  admitted : driver.completed + driver.outstandingRequests =
    (driver.history.filterMap Event.admission).length
  bytes : driver.bytesDone +
      (driver.inFlightBursts.map fun entry => entry.2.bytes).sum =
    driver.tsvBytesAdmitted
  callbacks : driver.history.filterMap Event.callbackRun =
    (driver.history.filterMap Event.completion).filterMap dueCallback
  sparse : driver.standardSparseInflight =
    driver.inFlightBursts.countP fun entry => entry.2.isStandardSparseRead
  serialized : config.serializeStandardSparseReads = true →
    driver.standardSparseInflight ≤ 1

/-- When nothing was in flight before the call, the accounts are about all
reads in flight. -/
theorem Accounts.books
    {config : AdmissionConfig M}
    {initial driver : Driver M}
    (accounts : Accounts config initial driver)
    (held : Held config driver)
    (idle : initial.inflight = []) :
    Books config initial.mux driver := by
  have noneBefore : initial.inFlightBursts = [] := by
    rw [inFlightBursts, idle, List.map_nil]
  have once := accounts.slots
  have distinct := accounts.distinct
  rw [noneBefore, List.nil_append] at once distinct
  have allLive : driver.liveRequests = driver.inflight := by
    refine List.filter_eq_self.mpr fun entry member => ?_
    refine (accounts.live entry member).mpr (accounts.fresh
      (entry.1, entry.2.burst) (once.mem_iff.mpr ?_))
    exact List.mem_append_right _ (List.mem_map_of_mem member)
  have tracked := accounts.tracked
  have outstanding := accounts.outstanding
  have bytes := accounts.bytes
  have sparse := accounts.sparse
  rw [allLive] at tracked outstanding bytes sparse
  constructor
  case fifo => exact accounts.fifo
  case distinct => exact distinct
  case once => exact once
  case held =>
    rw [inFlightBursts, List.map_map]
    exact held
  case outstanding => rw [inFlightBursts, List.length_map, outstanding]
  case admitted => exact accounts.admitted
  case bytes =>
    rw [inFlightBursts, List.map_map]
    exact bytes
  case callbacks => exact accounts.callbacks
  case sparse =>
    rw [sparse, inFlightBursts, List.countP_map]
    exact List.countP_congr fun entry member => by
      simp [tracked entry member]
  case serialized => exact accounts.serialized

end Driver

namespace RamulatorHbmSimulator

variable {F M : Type}

/-- No read of an earlier call is in flight. -/
structure Idle (simulator : RamulatorHbmSimulator F M) : Prop where
  inflight_nil : simulator.inflight = []
  held_zero :
    simulator.admission.ramulator.held simulator.memory = 0

/-- The driver a call starts from has nothing but what is in flight. -/
theorem entered_enter
    {simulator : RamulatorHbmSimulator F M}
    (dead : ∀ entry ∈ simulator.inflight, entry.2.live = false)
    (used : ∀ entry ∈ simulator.inflight, entry.1 < simulator.nextSlot)
    (distinct : (simulator.inflight.map Prod.fst).Nodup)
    (held : simulator.admission.ramulator.held simulator.memory =
      ((simulator.inflight.map Prod.fst : List Nat) : Multiset Nat)) :
    Driver.Entered simulator.admission simulator.enter.driver where
  history_nil := rfl
  completed_zero := rfl
  bytesDone_zero := rfl
  outstanding_zero := rfl
  sparse_zero := rfl
  tsvBytes_zero := rfl
  dead := dead
  used := used
  distinct := distinct
  held := held

theorem Idle.entered
    {simulator : RamulatorHbmSimulator F M}
    (idle : simulator.Idle) :
    Driver.Entered simulator.admission simulator.enter.driver := by
  apply entered_enter
  · simp [idle.inflight_nil]
  · simp [idle.inflight_nil]
  · simp [idle.inflight_nil]
  · simp [idle.inflight_nil, idle.held_zero]

variable [Zero F] [One F] [Add F] [Sub F] [Mul F] [Div F] [NatCast F]

/-- At every cycle boundary of a call of `run` the books balance: no burst is
lost or duplicated, and every counter is the count it stands for. -/
theorem runState_books
    (simulator : RamulatorHbmSimulator F M)
    (idle : simulator.Idle)
    (cycles : Nat) :
    Driver.Books simulator.admission simulator.mux
      (simulator.runState cycles).driver := by
  have initially : RunState.Balanced simulator.runConfig
      simulator.enter.driver simulator.enter.driver :=
    ⟨.of_entered idle.entered, idle.entered.held⟩
  have after := RunState.Balanced.loop cycles initially
  exact after.accounts.books after.held idle.inflight_nil

/-- One burst on one port, in front of a memory that takes `latency` ticks. -/
def singleBurst (latency : Nat) :
    RamulatorHbmSimulator ℚ (List (Nat × Nat)) :=
  { RamulatorHbmSimulator.initial FloatOps.atZero
      { ramulator := FixedLatency.ramulator latency } [] with
    mux := PseudoChannelMultiplexer.enqueue {} 3 { pcId := 3 } }

/-- Two sequential 64-byte reads on every port, with nothing attached; a
cycle's budget has room for eight of them. -/
def sequentialReads : RamulatorHbmSimulator ℚ (List (Nat × Nat)) :=
  { RamulatorHbmSimulator.initial FloatOps.atZero
      { ramulator := FixedLatency.ramulator 2 } [] with
    mux := PseudoChannelMultiplexer.loadSequentialWorkload {} 2 64 }

/-- The same reads, one in flight at a time. -/
def serializedReads : RamulatorHbmSimulator ℚ (List (Nat × Nat)) :=
  { sequentialReads with
    admission := { sequentialReads.admission with
      serializeStandardSparseReads := true } }

/-- The books while the budget, and then the knob, hold reads back. -/
theorem sequentialReads_books :
    Driver.Books sequentialReads.admission sequentialReads.mux
        (sequentialReads.runState 3).driver ∧
      Driver.Books serializedReads.admission serializedReads.mux
        (serializedReads.runState 5).driver :=
  ⟨runState_books sequentialReads ⟨rfl, rfl⟩ 3,
    runState_books serializedReads ⟨rfl, rfl⟩ 5⟩

end RamulatorHbmSimulator

end PimGraphs
