import PimGraphs.Memory.FixedLatency
import PimGraphs.Simulator.Composition

/-!
# Where a call can be cut

When two calls compose for every budget of the second one, no read of the
first call can be in flight at the cut: the second call would never count it,
while a memory that serves every read makes the longer call count it in the
end.  Nor can the first call wait for a hidden state it has requested: the
second one would request it again.
-/

namespace PimGraphs

namespace Driver

variable {M : Type}

/-- Slots in flight. -/
def busySlots (driver : Driver M) : List Nat := driver.inflight.map Prod.fst

/-- Slots in flight between two bounds. -/
def carried (driver : Driver M) (lower upper : Nat) : List Nat :=
  driver.busySlots.filter fun slot => decide (lower ≤ slot ∧ slot < upper)

theorem mem_carried
    {driver : Driver M}
    {lower upper slot : Nat} :
    slot ∈ driver.carried lower upper ↔
      slot ∈ driver.busySlots ∧ lower ≤ slot ∧ slot < upper := by
  simp [carried]

theorem Accounts.nodup_busySlots
    {config : AdmissionConfig M}
    {initial driver : Driver M}
    (accounts : Accounts config initial driver) :
    driver.busySlots.Nodup := by
  have distinct := (accounts.slots.map Prod.fst).nodup_iff.mp
    accounts.distinct
  rw [List.map_append] at distinct
  have unique := (List.nodup_append.mp distinct).2.1
  rw [inFlightBursts, List.map_map] at unique
  exact unique

/-- The reads a call counts as outstanding are those in flight that it has
admitted itself. -/
theorem Accounts.outstanding_eq
    {config : AdmissionConfig M}
    {initial driver : Driver M}
    (accounts : Accounts config initial driver) :
    driver.outstandingRequests =
      driver.busySlots.countP fun slot => decide (initial.nextSlot ≤ slot) := by
  rw [accounts.outstanding, liveRequests, ← List.countP_eq_length_filter,
    busySlots, List.countP_map]
  refine List.countP_congr fun entry member => ?_
  rw [accounts.live entry member]
  simp

/-- Reads in flight above a lower bound are those below and those above any
higher bound. -/
theorem countP_busySlots_split
    (driver : Driver M)
    {lower upper : Nat}
    (ordered : lower ≤ upper) :
    driver.busySlots.countP (fun slot => decide (lower ≤ slot)) =
      (driver.carried lower upper).length +
        driver.busySlots.countP fun slot => decide (upper ≤ slot) := by
  unfold carried
  rw [← List.countP_eq_length_filter]
  induction driver.busySlots with
  | nil => rfl
  | cons slot rest inductionHypothesis =>
      simp only [List.countP_cons, inductionHypothesis, decide_eq_true_eq]
      split <;> split <;> split <;> omega

/-- Every read in flight below a bound is one of the given reads, and the
reads to come lie above it. -/
structure Below (bound : Nat) (base : List Nat) (driver : Driver M) :
    Prop where
  nextSlot_ge : bound ≤ driver.nextSlot
  known : ∀ slot ∈ driver.busySlots, slot < bound → slot ∈ base

theorem Below.acceptRead
    {bound : Nat}
    {base : List Nat}
    {driver : Driver M}
    (below : Below bound base driver)
    (pcId : PcId)
    (burst : MemoryBurst)
    (memory : M) :
    Below bound base (driver.acceptRead pcId burst memory) where
  nextSlot_ge := Nat.le_succ_of_le below.nextSlot_ge
  known := by
    intro slot member small
    simp only [busySlots, Driver.acceptRead, List.map_append, List.map_cons,
      List.map_nil, List.mem_append, List.mem_singleton] at member
    rcases member with old | rfl
    · exact below.known slot old small
    · have := below.nextSlot_ge
      omega

theorem Below.complete
    {bound : Nat}
    {base : List Nat}
    {driver : Driver M}
    (below : Below bound base driver)
    (completed : Nat) :
    Below bound base (driver.complete completed).1 := by
  cases found : driver.inflight.lookup completed with
  | none => simpa [Driver.complete_eq, found] using below
  | some request =>
      constructor
      · rw [complete_nextSlot]
        exact below.nextSlot_ge
      · intro slot member small
        rw [busySlots, complete_inflight found] at member
        refine below.known slot ?_ small
        exact (List.eraseP_sublist.map Prod.fst).subset member

theorem Below.completeAll
    {bound : Nat}
    {base : List Nat}
    {driver : Driver M}
    (below : Below bound base driver)
    (fired : List Nat) :
    Below bound base (driver.completeAll fired) := by
  unfold Driver.completeAll
  induction fired generalizing driver with
  | nil => exact below
  | cons slot rest inductionHypothesis =>
      exact inductionHypothesis (below.complete slot)

theorem enqueueAll_keeps
    (driver : Driver M)
    (via : Option Nat)
    (bursts : List MemoryBurst) :
    (driver.enqueueAll via bursts).inflight = driver.inflight ∧
      (driver.enqueueAll via bursts).nextSlot = driver.nextSlot ∧
        (driver.enqueueAll via bursts).memory = driver.memory := by
  unfold enqueueAll
  induction bursts generalizing driver with
  | nil => exact ⟨rfl, rfl, rfl⟩
  | cons burst rest inductionHypothesis =>
      exact inductionHypothesis (driver.enqueue via burst)

theorem completeAll_memory
    (driver : Driver M)
    (fired : List Nat) :
    (driver.completeAll fired).memory = driver.memory := by
  unfold completeAll
  apply Sweep.observe_foldl (fun reached : Driver M => reached.memory)
  intro reached slot
  apply complete_memory

end Driver

/-- Components touch neither the memory nor the table of reads. -/
theorem Moves.keeps
    {M : Type}
    {attached : Option Nat}
    {first last : Traffic M}
    (moves : Moves attached first last) :
    last.2.inflight = first.2.inflight ∧
      last.2.nextSlot = first.2.nextSlot ∧
        last.2.memory = first.2.memory := by
  induction moves with
  | refl => exact ⟨rfl, rfl, rfl⟩
  | enqueue _ _ inductionHypothesis => exact inductionHypothesis
  | route _ _ _ _ inductionHypothesis => exact inductionHypothesis
  | @deliver last ref _ _ inductionHypothesis =>
      obtain ⟨inflight, nextSlot, memory⟩ :=
        last.2.enqueueAll_keeps (some ref) (last.1 ref).tick.2
      rw [inflight, nextSlot, memory]
      exact inductionHypothesis

namespace RunState

variable {F M : Type} [Zero F] [One F] [Add F] [Sub F] [Mul F] [Div F]
variable [NatCast F] {config : RunConfig F M} {state : RunState F M}

theorem keeps_tickComponents
    (config : RunConfig F M)
    (state : RunState F M) :
    (state.tickComponents config).driver.inflight = state.driver.inflight ∧
      (state.tickComponents config).driver.nextSlot =
          state.driver.nextSlot ∧
        (state.tickComponents config).driver.memory = state.driver.memory := by
  have atStart : Moves config.attached.router state.traffic state.traffic :=
    .refl
  exact (tickComponents_moves config atStart).keeps

/-- The driver of a cycle just before the memory's tick. -/
def loadedDriver (config : RunConfig F M) (state : RunState F M) :
    Driver M :=
  ((state.tickComponents config).runAdmission config).driver

theorem driver_cycle
    (config : RunConfig F M)
    (state : RunState F M) :
    (state.cycle config).driver =
      { state.loadedDriver config with
        memory := (config.admission.ramulator.tick
          (state.loadedDriver config).memory).1 }.completeAll
        (config.admission.ramulator.tick
          (state.loadedDriver config).memory).2 := by
  simp only [cycle, tickMemory, foldl_completeSlot_driver]
  rfl

theorem below_cycle
    {bound : Nat}
    {base : List Nat}
    (below : state.driver.Below bound base) :
    (state.cycle config).driver.Below bound base := by
  obtain ⟨inflight, nextSlot, -⟩ := keeps_tickComponents config state
  have components : (state.tickComponents config).driver.Below bound base := by
    constructor
    · rw [nextSlot]
      exact below.nextSlot_ge
    · rw [Driver.busySlots, inflight]
      exact below.known
  have keeps : WaveLoop.KeptByAdmission config.admission
      (Driver.Below (M := M) bound base) :=
    fun _ pcId burst _ memory holds _ _ _ =>
      holds.acceptRead pcId burst memory
  have loaded : (state.loadedDriver config).Below bound base :=
    WaveLoop.kept_admissionLoop keeps components
  rw [driver_cycle]
  refine Driver.Below.completeAll ?_ _
  exact ⟨loaded.nextSlot_ge, loaded.known⟩

/-- The memory's share of a cycle: some accepted reads, then a tick. -/
theorem memory_cycle
    (config : RunConfig F M)
    (state : RunState F M) :
    config.admission.ramulator.Accepts state.driver.memory
        (state.loadedDriver config).memory ∧
      (state.cycle config).driver.memory =
        (config.admission.ramulator.tick
          (state.loadedDriver config).memory).1 := by
  obtain ⟨-, -, memory⟩ := keeps_tickComponents config state
  constructor
  · have keeps : WaveLoop.KeptByAdmission config.admission
        fun driver : Driver M =>
          config.admission.ramulator.Accepts state.driver.memory
            driver.memory :=
      fun _ _ _ _ _ accepts _ _ sent => accepts.send sent
    apply WaveLoop.kept_admissionLoop keeps
    rw [memory]
    exact .refl
  · rw [driver_cycle, Driver.completeAll_memory]

/-- A read that fires in a cycle is not in flight after it. -/
theorem not_mem_busySlots_cycle
    {initial : Driver M}
    (balanced : Balanced config initial state.driver)
    {slot : Nat}
    (fires : slot ∈ (config.admission.ramulator.tick
      (state.loadedDriver config).memory).2) :
    slot ∉ (state.cycle config).driver.busySlots := by
  have loaded : Balanced config initial (state.loadedDriver config) :=
    balanced.tickComponents.runAdmission
  have after : Balanced config initial (state.cycle config).driver :=
    balanced.cycle
  have held := config.admission.ramulator.held_tick
    (state.loadedDriver config).memory
  rw [show config.admission.ramulator.held _ = _ from loaded.held,
    ← (memory_cycle config state).2,
    show config.admission.ramulator.held _ = _ from after.held,
    Multiset.coe_add, Multiset.coe_eq_coe] at held
  have disjoint := (List.nodup_append.mp
    (held.nodup_iff.mp loaded.accounts.nodup_busySlots)).2.2
  exact fun member => disjoint slot member slot fires rfl

/-! ## The router's queues -/

theorem routers_cycle
    (config : RunConfig F M)
    (state : RunState F M) :
    (state.cycle config).store.routers =
      (state.tickComponents config).store.routers := by
  apply Sweep.observe_foldl
    (fun reached : RunState F M => reached.store.routers)
  intro reached slot
  apply routers_completeSlot

omit [Zero F] [One F] [Add F] [Sub F] [Mul F] [Div F] [NatCast F] in
theorem length_waiting_route
    (state : RunState F M)
    (router : Nat)
    (producer : Producer)
    (burst : MemoryBurst) :
    ((state.route router producer [burst]).store.routers
        router).waiting.length =
      (state.store.routers router).waiting.length + 1 := by
  have waiting := congrArg Multiset.card
    ((state.store.routers router).waiting_enqueueRequest burst)
  simpa [route, Store.setRouter] using waiting

omit [Zero F] [One F] [Add F] [Sub F] [Mul F] [Div F] [NatCast F] in
theorem length_waiting_requestHidden
    {router ref : Nat}
    (attached : config.attached.router = some router)
    (loading : (state.store.programs ref).phase = .applyUpdateLoadH) :
    ((state.requestHidden config ref).store.routers router).waiting.length =
      (state.store.routers router).waiting.length +
        (!state.loadHIssued).toNat := by
  unfold requestHidden
  cases raised : state.loadHIssued with
  | true => simp [attached]
  | false =>
      simp only [attached, loading, and_self, if_true]
      exact length_waiting_route state router _ _

omit [Zero F] [One F] [Add F] [Sub F] [Mul F] [Div F] [NatCast F] in
theorem length_waiting_writebackVertex
    {router ref : Nat}
    (attached : config.attached.router = some router) :
    ((state.writebackVertex config ref).store.routers
        router).waiting.length =
      (state.store.routers router).waiting.length +
        (state.issuesWriteback config ref).toNat := by
  unfold writebackVertex issuesWriteback
  cases ready : (state.store.programs ref).writebackReady with
  | false => simp [attached, ready]
  | true =>
      simp only [attached, ready, if_true, Option.isSome_some, Bool.and_self]
      exact length_waiting_route state router _ _

/-- In a cycle in which the program waits for the hidden state, the router is
handed one burst more when the flag is down than when it is up. -/
theorem length_waiting_cycle
    (state : RunState F M)
    {router ref : Nat}
    (attachedRouter : config.attached.router = some router)
    (attached : config.attached.vertexProgram = some ref)
    (loading : (state.store.programs ref).phase = .applyUpdateLoadH)
    (notLoaded : (state.store.programs ref).hLoadDone = false) :
    ((state.cycle config).store.routers router).waiting.length =
      ((state.tickedProgram config ref).store.routers router).waiting.length +
        (!state.loadHIssued).toNat +
          ((state.tickedProgram config ref).issuesWriteback config
            ref).toNat := by
  have stillLoading : ((state.tickedProgram config ref).store.programs
      ref).phase = .applyUpdateLoadH := by
    rw [program_tickedProgram, programs_tickDatapath]
    simp [TGNVertexProgram.tick, loading,
      TGNVertexProgram.tickLoadHiddenState, TGNVertexProgram.countCycle,
      notLoaded]
  have flag : (state.tickedProgram config ref).loadHIssued =
      state.loadHIssued := by
    have leaves : LeavesVertex config ref state (state.tickDatapath config).1 :=
      LeavesVertex.tickDatapath state
    exact leaves.loadHIssued
  have samePrograms := (LeavesVertex.requestHidden config
    (state.tickedProgram config ref) ref).1
  have sameIssues : ((state.tickedProgram config ref).requestHidden config
      ref).issuesWriteback config ref =
        (state.tickedProgram config ref).issuesWriteback config ref := by
    rw [issuesWriteback, samePrograms]
    rfl
  rw [routers_cycle, tickComponents_eq config state ref attached,
    recordStats_store, length_waiting_writebackVertex attachedRouter,
    length_waiting_requestHidden attachedRouter stillLoading, flag, sameIssues]

end RunState

namespace RamulatorHbmSimulator

variable {F M : Type} [Zero F] [One F] [Add F] [Sub F] [Mul F] [Div F]
variable [NatCast F] {simulator : RamulatorHbmSimulator F M}

/-- Reads of the first call that are in flight in the longer one. -/
def carriedReads
    (simulator : RamulatorHbmSimulator F M)
    (first second : Nat) : List Nat :=
  (simulator.runState (first + second)).driver.carried simulator.nextSlot
    (simulator.runState first).driver.nextSlot

/-- A read of the first call in flight later was in flight at the cut. -/
theorem mem_carriedReads_of_later
    (first second : Nat)
    {slot : Nat}
    (later : slot ∈ simulator.carriedReads first second) :
    slot ∈ simulator.carriedReads first 0 := by
  have below (later : Nat) :
      (simulator.runState (first + later)).driver.Below
        (simulator.runState first).driver.nextSlot
        (simulator.runState first).driver.busySlots := by
    induction later with
    | zero => exact ⟨le_rfl, fun _ member _ => member⟩
    | succ later inductionHypothesis =>
        rw [← Nat.add_assoc, runState_succ]
        split
        · exact RunState.below_cycle inductionHypothesis
        · exact inductionHypothesis
  obtain ⟨member, lower, upper⟩ := Driver.mem_carried.mp later
  exact Driver.mem_carried.mpr
    ⟨(below second).known slot member upper, lower, upper⟩

/-- When two calls compose, as many reads of the first call are in flight
later as at the cut. -/
theorem length_carriedReads_eq
    (wellFormed : simulator.WellFormed)
    {first second : Nat}
    (composes : simulator.CallsCompose first second) :
    (simulator.carriedReads first second).length =
      (simulator.runState first).driver.outstandingRequests := by
  have cut := (runState_balanced wellFormed first).accounts
  have longer := (runState_balanced wellFormed (first + second)).accounts
  have again := (runState_balanced (wellFormed_run wellFormed first)
    second).accounts
  have sameSlots : ((simulator.run first).1.runState second).driver.busySlots =
      (simulator.runState (first + second)).driver.busySlots := by
    have tables := congrArg
      (fun simulator : RamulatorHbmSimulator F M =>
        simulator.inflight.map Prod.fst) composes.left_behind
    simpa [run, leave, Function.comp_def, Driver.busySlots] using tables
  have sameNext : ((simulator.run first).1.runState second).driver.nextSlot =
      (simulator.runState (first + second)).driver.nextSlot :=
    congrArg RamulatorHbmSimulator.nextSlot composes.left_behind
  have counted : (simulator.runState first).driver.completed +
      ((simulator.run first).1.runState second).driver.completed =
        (simulator.runState (first + second)).driver.completed :=
    composes.burstsCompleted
  have split := Driver.countP_busySlots_split
    (simulator.runState (first + second)).driver cut.nextSlot_ge
  have outstandingLonger := longer.outstanding_eq
  have outstandingAgain := again.outstanding_eq
  rw [sameSlots] at outstandingAgain
  have cutAdmitted := cut.admitted
  have cutNext := cut.nextSlot_eq
  have longerAdmitted := longer.admitted
  have longerNext := longer.nextSlot_eq
  have againAdmitted := again.admitted
  have againNext := again.nextSlot_eq
  change _ = (simulator.runState first).driver.nextSlot + _ at againNext
  change _ = List.countP (fun slot =>
    decide ((simulator.runState first).driver.nextSlot ≤ slot)) _
    at outstandingAgain
  change ((simulator.runState (first + second)).driver.carried
    simulator.enter.driver.nextSlot _).length = _
  omega

/-- When two calls compose for every second budget, a read of the first call
in flight at the cut stays in flight. -/
theorem mem_carriedReads_of_composes
    (wellFormed : simulator.WellFormed)
    {first : Nat}
    (composes : ∀ second, simulator.CallsCompose first second)
    {slot : Nat}
    (atCut : slot ∈ simulator.carriedReads first 0)
    (second : Nat) :
    slot ∈ simulator.carriedReads first second := by
  have unique : (simulator.carriedReads first second).Nodup :=
    (runState_balanced wellFormed
      (first + second)).accounts.nodup_busySlots.filter _
  have contained : (simulator.carriedReads first second).Subperm
      (simulator.carriedReads first 0) :=
    unique.subperm fun _ later => mem_carriedReads_of_later first second later
  have sameLength : (simulator.carriedReads first 0).length ≤
      (simulator.carriedReads first second).length := by
    rw [length_carriedReads_eq wellFormed (composes 0),
      length_carriedReads_eq wellFormed (composes second)]
  exact (contained.perm_of_length_le sameLength).mem_iff.mpr atCut

/-- When two calls compose for every second budget, and the memory serves
every read, the first call has no read in flight at the cut. -/
theorem outstanding_eq_zero_of_composes
    (live : simulator.admission.ramulator.Live)
    (wellFormed : simulator.WellFormed)
    {first : Nat}
    (composes : ∀ second, simulator.CallsCompose first second) :
    (simulator.runState first).driver.outstandingRequests = 0 := by
  by_contra someOutstanding
  have working (later : Nat) :
      (simulator.runState (first + later)).hasWork simulator.runConfig =
        true := by
    have accounts := (runState_balanced wellFormed (first + later)).accounts
    have split := Driver.countP_busySlots_split
      (simulator.runState (first + later)).driver
      (runState_balanced wellFormed first).accounts.nextSlot_ge
    rw [← accounts.outstanding_eq] at split
    have carried := length_carriedReads_eq wellFormed (composes later)
    change ((simulator.runState (first + later)).driver.carried
      simulator.enter.driver.nextSlot _).length = _ at carried
    have positive :
        0 < (simulator.runState (first + later)).driver.outstandingRequests :=
      by omega
    simp [RunState.hasWork, positive]
  have steps (later : Nat) : simulator.runState (first + (later + 1)) =
      (simulator.runState (first + later)).cycle simulator.runConfig := by
    rw [← Nat.add_assoc, runState_succ, if_pos (working later)]
  obtain ⟨slot, atCut⟩ : ∃ slot, slot ∈ simulator.carriedReads first 0 := by
    apply List.exists_mem_of_length_pos
    rw [length_carriedReads_eq wellFormed (composes 0)]
    omega
  have held : slot ∈ simulator.admission.ramulator.held
      (simulator.runState (first + 0)).driver.memory := by
    rw [show simulator.admission.ramulator.held _ = _ from
      (runState_balanced wellFormed (first + 0)).held, Multiset.mem_coe]
    exact (Driver.mem_carried.mp atCut).1
  obtain ⟨time, fires⟩ := live
    (fun time => (simulator.runState (first + time)).driver.memory)
    (fun time => ((simulator.runState (first + time)).loadedDriver
      simulator.runConfig).memory)
    (fun time => by
      rw [steps]
      exact RunState.memory_cycle simulator.runConfig _)
    slot held
  have gone := RunState.not_mem_busySlots_cycle
    (runState_balanced wellFormed (first + time)) fires
  rw [← steps] at gone
  have stays := mem_carriedReads_of_composes wellFormed composes atCut
    (time + 1)
  exact gone (Driver.mem_carried.mp stays).1

/-- When a call composes with one more cycle, it does not wait for a hidden
state at the cut. -/
theorem not_awaitsHidden_of_composes
    (wellFormed : simulator.WellFormed)
    {first : Nat}
    (noneOutstanding :
      (simulator.runState first).driver.outstandingRequests = 0)
    (composes : simulator.CallsCompose first 1) :
    ¬ (simulator.runState first).AwaitsHidden simulator.runConfig := by
  rintro ⟨hasRouter, ref, attached, loading, notLoaded, raised⟩
  obtain ⟨router, attachedRouter⟩ := Option.isSome_iff_exists.mp hasRouter
  have cut := runState_eq_credit wellFormed noneOutstanding
  have busy : (simulator.runState first).hasWork simulator.runConfig =
      true := by
    simp [RunState.hasWork, RunState.programBusy, attached,
      TGNVertexProgram.isDone, loading]
  have busyAgain : (simulator.run first).1.enter.hasWork
      simulator.runConfig = true := by
    rw [cut, RunState.hasWork_credit] at busy
    exact busy
  have longer : simulator.runState (first + 1) =
      (simulator.runState first).cycle simulator.runConfig := by
    rw [runState_succ, if_pos busy]
  have again : (simulator.run first).1.runState 1 =
      (simulator.run first).1.enter.cycle simulator.runConfig := by
    rw [runState_succ]
    exact if_pos busyAgain
  have sameRouters : ((simulator.run first).1.enter.cycle
        simulator.runConfig).store.routers =
      ((simulator.runState first).cycle
        simulator.runConfig).store.routers := by
    rw [← longer, ← again]
    exact congrArg (fun simulator : RamulatorHbmSimulator F M =>
      simulator.store.routers) composes.left_behind
  have once := RunState.length_waiting_cycle (simulator.runState first)
    attachedRouter attached loading notLoaded
  have twice := RunState.length_waiting_cycle (simulator.run first).1.enter
    attachedRouter attached loading notLoaded
  have ticked : (simulator.runState first).tickedProgram simulator.runConfig
        ref =
      ((simulator.run first).1.enter.tickedProgram simulator.runConfig
        ref).credit (simulator.runState first).counts
          (simulator.runState first).loadHIssued
          (simulator.runState first).vertexProgramStats :=
    (congrArg (fun state => state.tickedProgram simulator.runConfig ref)
      cut).trans (RunState.credit_tickedProgram _ _ _ _ _ _)
  have lowered : (simulator.run first).1.enter.loadHIssued = false := rfl
  rw [ticked, raised, RunState.store_credit,
    RunState.issuesWriteback_credit] at once
  rw [sameRouters, once, lowered] at twice
  simp only [Bool.not_true, Bool.not_false, Bool.toNat_true,
    Bool.toNat_false] at twice
  omega

/-- Two calls compose, whatever the budget of the second one, when the cut is
clean; and with a memory that serves every read, only then. -/
theorem callsCompose_iff_cutClean
    (simulator : RamulatorHbmSimulator F M)
    (wellFormed : simulator.WellFormed)
    (first : Nat) :
    (simulator.CutClean first →
        ∀ second, simulator.CallsCompose first second) ∧
      (simulator.admission.ramulator.Live →
        (∀ second, simulator.CallsCompose first second) →
          simulator.CutClean first) := by
  constructor
  · intro clean second
    exact callsCompose_of_cutClean wellFormed clean second
  · intro live composes
    have noneOutstanding :=
      outstanding_eq_zero_of_composes live wellFormed composes
    exact Or.inr ⟨noneOutstanding,
      not_awaitsHidden_of_composes wellFormed noneOutstanding (composes 1)⟩

theorem singleBurst_callsCompose_iff :
    (∀ second, (singleBurst 2).CallsCompose 1 second) ↔
      (singleBurst 2).CutClean 1 := by
  have composes := callsCompose_iff_cutClean (singleBurst 2)
    (wellFormed_singleBurst 2) 1
  exact ⟨composes.2 (FixedLatency.live 2), composes.1⟩

/-- Stepped one cycle at a time, a call never counts a burst that takes two. -/
theorem singleBurst_not_callsCompose :
    ¬ (singleBurst 2).CallsCompose 1 1 := by
  intro composes
  have counted := composes.burstsCompleted
  have apart : ((singleBurst 2).run 1).2.burstsCompleted +
      (((singleBurst 2).run 1).1.run 1).2.burstsCompleted = 0 := by
    decide +kernel
  have together : ((singleBurst 2).run (1 + 1)).2.burstsCompleted = 1 := by
    decide +kernel
  omega

end RamulatorHbmSimulator

end PimGraphs
