import PimGraphs.Simulator.BurstSizes
import PimGraphs.Simulator.Programs
import PimGraphs.Simulator.Progress

/-!
# Programs of a run end

Cores whose programs have no GRU_UPDATE, with a memory that serves every read
in bounded time and rejects one only while it serves others, and with routers
and a byte budget that let every burst through, are never stuck: in every
window of cycles they spend some of the work they began with.  So a run of
them ends, and then every core has executed its program.
-/

namespace PimGraphs

namespace RamulatorHbmSimulator

variable {F M : Type}

/-- All attached cores have just loaded programs without GRU_UPDATE, hand their
loads to the attached router and gather, if at all, on the attached
controller, which nobody else uses. -/
structure RunsPrograms
    (simulator : RamulatorHbmSimulator F M)
    (numRegisters : Nat → UInt32)
    (program : Nat → List SIMDInstruction) : Prop where
  idle : simulator.Idle
  coresOnly : RunState.CoresOnly simulator.runConfig
  loaded : ∀ vault ref, simulator.attached.vpus vault = some ref →
    simulator.HasLoaded ref (numRegisters ref) (program ref)
  router : ∀ vault ref, simulator.attached.vpus vault = some ref →
    simulator.attached.router = some (simulator.store.cores ref).router
  controller : ∀ vault ref, simulator.attached.vpus vault = some ref →
    (∃ inst ∈ program ref, inst.op = .gather) →
      simulator.attached.piccolo = some (simulator.store.cores ref).piccolo
  solvent : ∀ ref, simulator.attached.router = some ref →
    (simulator.store.routers ref).Solvent
  gathered : ∀ ref, simulator.attached.piccolo = some ref →
    (simulator.store.piccolos ref).done = true
  issues : ∀ ref, simulator.attached.piccolo = some ref →
    0 < (simulator.store.piccolos ref).maxOutstanding

/-- A burst of this size fits a cycle's byte budget, and a router saves its
size in some number of cycles. -/
structure LetsThrough
    (simulator : RamulatorHbmSimulator F M)
    (refills : Nat)
    (bytes : UInt32) : Prop where
  fits : simulator.admission.overBudget 0 bytes.toNat = false
  affords : ∀ ref, simulator.attached.router = some ref →
    (simulator.store.routers ref).Affords refills bytes.toNat

section Run

variable [Zero F] [One F] [Add F] [Sub F] [Mul F] [Div F] [NatCast F]
variable {simulator : RamulatorHbmSimulator F M}
variable {numRegisters : Nat → UInt32} {program : Nat → List SIMDInstruction}

omit [Zero F] [One F] [Add F] [Sub F] [Mul F] [Div F] [NatCast F] in
/-- Such a simulator starts in a steady state. -/
theorem RunsPrograms.steady_enter
    (runs : simulator.RunsPrograms numRegisters program) :
    RunState.Steady simulator.runConfig simulator.enter := by
  have fresh (vault : Fin 16) (ref : Nat)
      (isAttached : simulator.attached.vpus vault = some ref) :
      (simulator.store.cores ref).isWaitingForGru = false ∧
        (simulator.store.cores ref).isWaitingForPiccolo = false ∧
          (simulator.store.cores ref).instructionQueue = program ref := by
    have loaded := (runs.loaded vault ref isAttached).loaded
    refine ⟨?_, ?_, ?_⟩
    all_goals
      rw [loaded]
      rfl
  constructor
  case noGru =>
    intro vault ref isAttached
    obtain ⟨notWaiting, -, queue⟩ := fresh vault ref isAttached
    refine ⟨notWaiting, fun inst member => ?_⟩
    exact ((runs.loaded vault ref isAttached).supported inst
      (queue ▸ member)).notGru
  case router => exact runs.router
  case leaves =>
    intro vault ref isAttached controller spare refers
    obtain ⟨-, notGathering, queue⟩ := fresh vault ref isAttached
    refine ⟨notGathering, fun inst member isGather => spare ?_⟩
    rw [← refers]
    exact runs.controller vault ref isAttached ⟨inst, queue ▸ member, isGather⟩
  case solvent => exact runs.solvent
  case handedOver => exact fun _ member => absurd member List.not_mem_nil
  case issues => exact runs.issues
  case gathers =>
    exact fun controller isAttached =>
      Or.inl (runs.gathered controller isAttached)

/-- So is every state it comes to. -/
theorem RunsPrograms.steady
    (runs : simulator.RunsPrograms numRegisters program)
    {state : RunState F M}
    (turns : RunState.Turns simulator.runConfig simulator.enter state) :
    RunState.Steady simulator.runConfig state :=
  (runs.steady_enter.turns runs.coresOnly turns).1

theorem turns_between
    (simulator : RamulatorHbmSimulator F M)
    {first last : Nat}
    (ordered : first ≤ last) :
    RunState.Turns simulator.runConfig (simulator.before first)
      (simulator.before last) := by
  obtain ⟨rest, rfl⟩ := Nat.exists_eq_add_of_le ordered
  rw [before, before, RunState.clocked_add]
  exact RunState.turns_clocked _ _ rest

/-! ## A window in which no work is spent -/

/-- No work is spent between two cycles. -/
structure Stuck
    (simulator : RamulatorHbmSimulator F M)
    (first last : Nat) : Prop where
  ordered : first < last
  unspent : (simulator.before first).potential simulator.runConfig ≤
    (simulator.before last).potential simulator.runConfig

section Window

variable (runs : simulator.RunsPrograms numRegisters program)
variable {first last : Nat} (stuck : simulator.Stuck first last)
include runs stuck

/-- Then nothing happens between them. -/
theorem Stuck.idles
    {state : RunState F M}
    (since : RunState.Turns simulator.runConfig (simulator.before first) state)
    (ahead : RunState.Turns simulator.runConfig state
      (simulator.before last)) :
    RunState.Idles simulator.runConfig (simulator.before first) state := by
  have start := runs.steady (simulator.turns_before first)
  obtain ⟨steady, descends⟩ := start.turns runs.coresOnly since
  have later := (steady.turns runs.coresOnly ahead).2
  exact descends.idles_of_le (stuck.unspent.trans later.le)

theorem Stuck.idles_between
    {state after : RunState F M}
    (reached : RunState.Turns simulator.runConfig (simulator.before first)
      state)
    (turns : RunState.Turns simulator.runConfig state after)
    (ahead : RunState.Turns simulator.runConfig after
      (simulator.before last)) :
    RunState.Idles simulator.runConfig state after := by
  have steady := runs.steady ((simulator.turns_before first).trans reached)
  have idles := stuck.idles runs reached (turns.trans ahead)
  have later := stuck.idles runs (reached.trans turns) ahead
  apply (steady.turns runs.coresOnly turns).2.idles_of_le
  rw [idles.potential, later.potential]

theorem Stuck.idles_before
    {time : Nat}
    (since : first ≤ time)
    (ahead : time ≤ last) :
    RunState.Idles simulator.runConfig (simulator.before first)
      (simulator.before time) :=
  stuck.idles runs (simulator.turns_between since)
    (simulator.turns_between ahead)

/-- No work is spent from a later cycle on, either. -/
theorem Stuck.later
    {time : Nat}
    (since : first ≤ time)
    (ahead : time < last) :
    simulator.Stuck time last := by
  refine ⟨ahead, ?_⟩
  rw [(stuck.idles_before runs since ahead.le).potential]
  exact stuck.unspent

/-- A prompt memory has nothing left to fire. -/
theorem Stuck.noneInFlight
    {latency : Nat}
    (within : simulator.admission.ramulator.FiresWithin latency)
    (enough : first + latency ≤ last) :
    (simulator.before first).driver.inflight = [] := by
  by_contra busy
  obtain ⟨entry, rest, front⟩ := List.exists_cons_of_ne_nil busy
  have same := (stuck.idles_before runs (Nat.le_add_right first latency)
    enough).inflight
  have balanced := runs.idle.balanced first
  have isBusy : entry.1 ∈ (simulator.before first).driver.busySlots := by
    rw [Driver.busySlots, front]
    exact List.mem_cons_self
  have stillBusy : entry.1 ∈
      (simulator.before (first + latency)).driver.busySlots := by
    rw [Driver.busySlots, same]
    exact isBusy
  have atStart : simulator.enter.driver.busySlots = [] := by
    rw [Driver.busySlots, show simulator.enter.driver.inflight = [] from
      runs.idle.inflight_nil]
    rfl
  have recent := RunState.recent_of_busy within (runs.idle.balanced 0) atStart
    stillBusy
  have used := balanced.accounts.lt_nextSlot isBusy
  have grown : (simulator.before first).driver.nextSlot ≤
      (simulator.before (first + 1)).driver.nextSlot :=
    (simulator.continues_before (Nat.le_succ first)).nextSlot_le
  change (simulator.before (first + 1)).driver.nextSlot ≤ entry.1 at recent
  omega

/-- Everything left of a cycle lies before the end of the window. -/
theorem Stuck.idles_cycle
    {state : RunState F M}
    (reached : RunState.Turns simulator.runConfig (simulator.before first)
      state)
    (ahead : RunState.Turns simulator.runConfig state
      ((simulator.before first).cycle simulator.runConfig)) :
    RunState.Idles simulator.runConfig (simulator.before first) state := by
  apply stuck.idles runs reached
  rw [← RunState.clocked_succ] at ahead
  exact ahead.trans (simulator.turns_between stuck.ordered)

/-- Nothing is pending either: admission would admit it. -/
theorem Stuck.nonePending
    (willing : simulator.admission.ramulator.RejectsOnlyBusy)
    (fits : simulator.UsesSizes fun bytes =>
      simulator.admission.overBudget 0 bytes.toNat = false)
    (quiet : (simulator.before first).driver.inflight = []) :
    (simulator.before first).driver.mux.pendingBursts = 0 := by
  by_contra some
  let loaded := (simulator.before first).tickComponents simulator.runConfig
  have turns : RunState.Turns simulator.runConfig (simulator.before first)
      loaded := RunState.turns_tickComponents _ _
  have idles := stuck.idles_cycle runs turns
    (RunState.turns_of_components _ _)
  have admitted := stuck.idles_cycle runs
    (turns.trans (RunState.turns_runAdmission _ loaded))
    ((RunState.turns_tickMemory _ _).tail (.locals _ _ _ _))
  rw [PseudoChannelMultiplexer.pendingBursts_eq_zero_iff, not_forall] at some
  obtain ⟨pcId, waiting⟩ := some
  obtain ⟨burst, rest, front⟩ := List.exists_cons_of_ne_nil waiting
  rw [← idles.mux] at front
  have balanced := (runs.idle.balanced first).tickComponents
  have books : Driver.Books simulator.admission simulator.mux loaded.driver :=
    balanced.accounts.books balanced.held runs.idle.inflight_nil
  have noneInFlight : loaded.driver.inFlightBursts = [] := by
    rw [Driver.inFlightBursts, idles.inflight, quiet]
    rfl
  have isFront : (loaded.driver.mux.port pcId).front = some burst := by
    rw [PseudoChannelPort.front, front]
    rfl
  have issues := Driver.admits_of_quiet willing
    (by rw [books.held, noneInFlight]; rfl)
    (by rw [books.sparse, noneInFlight]; rfl) isFront
    (fits.of_mem_pending ((simulator.turns_before first).trans turns)
      (front ▸ List.mem_cons_self))
  have slots := (Driver.admits_admissionLoop simulator.admission
    loaded.driver).slots
  have sameMux : (loaded.driver.admissionLoop
      simulator.admission).driver.mux = loaded.driver.mux :=
    admitted.mux.trans idles.mux.symm
  rw [sameMux] at slots
  omega

/-- The router delivers nothing, and saves what a tick adds. -/
theorem Stuck.saves
    {ref : Nat}
    (isAttached : simulator.attached.router = some ref) :
    ((simulator.before first).store.routers ref).tick.2 = [] ∧
      ((simulator.before first).store.routers ref).tick.1.Saves
        ((simulator.before (first + 1)).store.routers ref) := by
  let delivered := ((simulator.before first).issuePiccolo
    simulator.runConfig).tickRouter simulator.runConfig
  have turns : RunState.Turns simulator.runConfig (simulator.before first)
      delivered :=
    (RunState.turns_issuePiccolo _ _).trans (RunState.turns_tickRouter _ _)
  have rest : RunState.Turns simulator.runConfig delivered
      (simulator.before (first + 1)) := by
    rw [before, RunState.clocked_succ]
    exact RunState.turns_of_router _ _
  have ticked : delivered.store.routers ref =
      ((simulator.before first).store.routers ref).tick.1 := by
    have same : ((simulator.before first).issuePiccolo
        simulator.runConfig).store.routers =
          (simulator.before first).store.routers :=
      RunState.routers_issuePiccolo
    rw [← same]
    simp only [delivered, RunState.tickRouter,
      show simulator.runConfig.attached.router = some ref from isAttached,
      Store.setRouter, Function.update_self]
  have ahead := simulator.turns_between stuck.ordered
  have idles := stuck.idles runs turns (rest.trans ahead)
  have saves := idles.router ref isAttached
  have still := (stuck.idles_between runs turns rest ahead).router ref
    isAttached
  rw [ticked] at saves still
  refine ⟨?_, still⟩
  have split := congrArg Multiset.card
    ((simulator.before first).store.routers ref).waiting_tick
  rw [saves.waiting, Multiset.card_add, Multiset.coe_card,
    Multiset.coe_card] at split
  exact List.length_eq_zero_iff.mp (by omega)

/-- From cycle to cycle it saves more. -/
theorem Stuck.saved
    {ref : Nat}
    (isAttached : simulator.attached.router = some ref)
    (ticks : Nat)
    (enough : first + ticks ≤ last) :
    ((simulator.before (first + ticks)).store.routers ref).Saved ticks := by
  induction ticks with
  | zero =>
      exact ((runs.steady (simulator.turns_before first)).solvent ref
        isAttached).saved_zero
  | succ ticks inductionHypothesis =>
      have stuckLater := stuck.later runs (Nat.le_add_right first ticks)
        (Nat.lt_of_succ_le enough)
      obtain ⟨nothing, saves⟩ := stuckLater.saves runs isAttached
      have before := inductionHypothesis (Nat.le_of_succ_le enough)
      exact (before.tick nothing).of_saves saves

/-- No burst waits in the router: the savings of the window would deliver
it. -/
theorem Stuck.noneWaiting
    {refills : Nat}
    (positive : 0 < refills)
    (affords : simulator.UsesSizes fun bytes =>
      ∀ ref, simulator.attached.router = some ref →
        (simulator.store.routers ref).Affords refills bytes.toNat)
    (enough : first + refills ≤ last)
    {ref : Nat}
    (isAttached : simulator.attached.router = some ref) :
    ((simulator.before first).store.routers ref).waiting = [] := by
  by_contra waits
  obtain ⟨ticks, rfl⟩ := Nat.exists_eq_add_one.mpr positive
  have beforeLast : first + ticks < last := enough
  have stuckLater := stuck.later runs (Nat.le_add_right first ticks)
    beforeLast
  have saves := (stuck.idles_before runs (Nat.le_add_right first ticks)
    beforeLast.le).router ref isAttached
  have saved := stuck.saved runs isAttached ticks beforeLast.le
  obtain ⟨nothing, -⟩ := stuckLater.saves runs isAttached
  refine saved.delivers ?_ ?_ nothing
  · intro burst member
    have turns := simulator.turns_before (first + ticks)
    refine HierarchicalRouter.Affords.of_sameRates ?_
      (RunState.sameRates_turns runs.coresOnly turns ref)
    refine affords.of_mem_toDo turns ?_ ref isAttached
    refine Multiset.mem_add.mpr (Or.inl (Multiset.mem_add.mpr (Or.inl ?_)))
    rw [isAttached]
    exact member
  · rw [saves.waiting]
    exact waits

/-- No attached core has anything to do. -/
theorem Stuck.notActing
    {vault : Fin 16}
    {ref : Nat}
    (isAttached : simulator.attached.vpus vault = some ref) :
    let store := (simulator.before first).store
    ¬ (store.cores ref).Acts (store.piccolos (store.cores ref).piccolo) := by
  intro store acts
  obtain ⟨reached, turns, rest⟩ := RunState.exists_turn_of_attached
    simulator.runConfig (simulator.before first) isAttached
  rw [← RunState.clocked_succ] at rest
  have ticked : RunState.Turns simulator.runConfig reached
      (reached.tickCore simulator.runConfig ref) :=
    .single (.core vault ref isAttached)
  have ahead := simulator.turns_between stuck.ordered
  have idles := stuck.idles runs turns (ticked.trans (rest.trans ahead))
  have steady := runs.steady ((simulator.turns_before first).trans turns)
  have spends : (reached.tickCore simulator.runConfig ref).potential
      simulator.runConfig < reached.potential simulator.runConfig := by
    apply RunState.potential_tickCore_lt isAttached
      (steady.noGru vault ref isAttached)
    rw [idles.cores, idles.piccolos]
    exact acts
  have still := stuck.idles_between runs turns ticked (rest.trans ahead)
  exact spends.ne still.potential

/-- The attached controller has nothing to issue. -/
theorem Stuck.notIssuing
    {ref : Nat}
    (isAttached : simulator.attached.piccolo = some ref)
    (missing : ((simulator.before first).store.piccolos ref).done = false) :
    ((simulator.before first).store.piccolos ref).canIssue = false := by
  rcases ((simulator.before first).store.piccolos ref).tickIssue_cases ref with
    ⟨cannot, -⟩ | ⟨-, fewer, -⟩
  · exact cannot
  · have idles := stuck.idles_cycle runs
      (RunState.turns_issuePiccolo _ _) (RunState.turns_of_issue _ _)
    have same := congrFun idles.piccolos ref
    simp only [RunState.issuePiccolo,
      show simulator.runConfig.attached.piccolo = some ref from isAttached,
      missing, Bool.false_eq_true, if_false, Store.setPiccolo,
      Function.update_self] at same
    rw [same] at fewer
    omega

/-- When nothing is on its way either, every attached core is done. -/
theorem Stuck.isDone
    {vault : Fin 16}
    {ref : Nat}
    (isAttached : simulator.attached.vpus vault = some ref)
    (nothing : toDo simulator.attached.router
      (simulator.before first).traffic = 0) :
    ((simulator.before first).store.cores ref).isDone = true ∧
      ((simulator.before first).store.cores ref).isWaitingForPiccolo =
        false := by
  have hasLoaded := runs.loaded vault ref isAttached
  have turns := simulator.turns_before first
  have steady := runs.steady turns
  have conserves : RunState.Conserves simulator.runConfig
      simulator.enter.traffic (simulator.before first) :=
    RunState.Conserves.turns (Conserved.of_history_nil rfl) turns
  have notActing := stuck.notActing runs isAttached
  obtain ⟨own, pushes, heads⟩ := hasLoaded.heads_of_turns turns
  have loads := conserves.completions_eq hasLoaded.noReply steady.handedOver
    nothing
  have reads := conserves.completions_eq hasLoaded.noRead steady.handedOver
    nothing
  rcases heads with ready | ⟨dest, loading⟩ |
    ⟨dest, initial, offsets, earlier, batch, gathering⟩
  · have running : ((simulator.before first).store.cores ref).isStalled =
        false := ready.running
    have empty : ((simulator.before first).store.cores
        ref).instructionQueue = [] := by
      by_contra some
      exact notActing (Or.inl ⟨running, some⟩)
    refine ⟨?_, ready.notGathering⟩
    rw [SIMDCore.isDone, empty, running]
    rfl
  · have waits : (completionsFor (.loadReply ref)
          (simulator.before first).driver.history).length + 1 =
        (requestsFor (.loadReply ref)
          (simulator.before first).driver.history).length := loading.loads
    exact absurd (waits.trans loads.symm) (Nat.succ_ne_self _)
  · -- the controller could issue, if its batch were not complete
    exfalso
    have missing : ((simulator.before first).store.piccolos
        ((simulator.before first).store.cores ref).piccolo).done = false := by
      by_contra done
      exact notActing (Or.inr ⟨gathering.stalled, gathering.gathering,
        Bool.not_eq_false _ ▸ done⟩)
    have isController : simulator.attached.piccolo =
        some ((simulator.before first).store.cores ref).piccolo := by
      by_contra spare
      have leaves := steady.leaves vault ref isAttached _ spare rfl
      exact Bool.noConfusion (leaves.1.symm.trans gathering.gathering)
    have cannot := stuck.notIssuing runs isController missing
    rw [own] at cannot missing isController
    have allRead : batch.values.length = batch.reads.length := by
      have completed := gathering.completed
      have issued := congrArg List.length gathering.reads
      rw [List.length_append] at issued
      change (completionsFor _ _).length = _ at completed
      change (requestsFor _ _).length = _ at issued
      have same : (completionsFor (.readComplete (simulator.wiring ref).piccolo)
          (simulator.before first).driver.history).length =
        (requestsFor (.readComplete (simulator.wiring ref).piccolo)
          (simulator.before first).driver.history).length := reads
      omega
    exact Bool.noConfusion (cannot.symm.trans
      (gathering.canIssue_of_missing allRead missing
        (steady.issues _ isController)))

/-- So the loop has nothing left to do. -/
theorem Stuck.stopped
    {latency refills : Nat}
    (positive : 0 < refills)
    (within : simulator.admission.ramulator.FiresWithin latency)
    (willing : simulator.admission.ramulator.RejectsOnlyBusy)
    (passes : simulator.UsesSizes (simulator.LetsThrough refills))
    (enough : first + max latency refills ≤ last) :
    (simulator.before first).hasWork simulator.runConfig = false := by
  have noneInFlight := stuck.noneInFlight runs within (by omega)
  have nonePending := stuck.nonePending runs willing
    (passes.imp fun _ passes => passes.fits) noneInFlight
  have nothing : toDo simulator.attached.router
      (simulator.before first).traffic = 0 := by
    refine (toDo_eq_zero_iff _ _).mpr ⟨fun ref isAttached => ?_, ?_, ?_⟩
    · rw [← HierarchicalRouter.waiting_eq_nil_iff]
      exact stuck.noneWaiting runs positive
        (passes.imp fun _ passes => passes.affords) (by omega) isAttached
    · exact (PseudoChannelMultiplexer.pendingBursts_eq_zero_iff _).mp
        nonePending
    · exact noneInFlight
  have cores (vault : Fin 16) (ref : Nat)
      (isAttached : simulator.attached.vpus vault = some ref) :=
    stuck.isDone runs isAttached nothing
  have vpus : (simulator.before first).vpuBusy simulator.runConfig =
      false := by
    rw [RunState.vpuBusy, List.any_eq_false]
    intro vault _
    split
    · exact Bool.false_ne_true
    case h_2 ref isAttached =>
      rw [(cores vault ref isAttached).1]
      exact Bool.false_ne_true
  have piccolo : (simulator.before first).piccoloBusy simulator.runConfig =
      false := by
    unfold RunState.piccoloBusy
    split
    · rfl
    case h_2 controller isAttached =>
      have steady := runs.steady (simulator.turns_before first)
      rcases steady.gathers controller isAttached with
        done | ⟨vault, ref, isCore, -, waits⟩
      · rw [done]
        rfl
      · exact absurd ((cores vault ref isCore).2.symm.trans waits)
          Bool.false_ne_true
  have noProgram : (simulator.before first).programBusy simulator.runConfig =
      false := by
    rw [RunState.programBusy, runs.coresOnly.noProgram]
  have outstanding : (simulator.before first).driver.outstandingRequests =
      0 := by
    rw [(runs.idle.books first).outstanding, Driver.inFlightBursts,
      noneInFlight]
    rfl
  rw [RunState.hasWork, vpus, piccolo, noProgram, outstanding,
    ← PseudoChannelMultiplexer.card_pendingBursts, nonePending]
  rfl

end Window

/-- What a run of programs has done when it ends. -/
structure Finished
    (simulator : RamulatorHbmSimulator F M)
    (program : Nat → List SIMDInstruction)
    (bound maxMemoryCycles : Nat) : Prop where
  memoryCycles : (simulator.run maxMemoryCycles).2.memoryCycles ≤ bound
  stopped : (simulator.runState maxMemoryCycles).hasWork
    simulator.runConfig = false
  executed : ∀ vault ref, simulator.attached.vpus vault = some ref →
    ((simulator.runState maxMemoryCycles).store.cores ref).isDone = true ∧
      simulator.HasExecuted ref (program ref)
        (simulator.runState maxMemoryCycles)

/-- A run of programs on a memory that serves every read within a latency, with
a router and a byte budget that let every burst through, ends in a number of
cycles that the programs bound, and then every core has executed its
program. -/
theorem run_finishes
    (simulator : RamulatorHbmSimulator F M)
    (numRegisters : Nat → UInt32)
    (program : Nat → List SIMDInstruction)
    (runs : simulator.RunsPrograms numRegisters program)
    (latency refills : Nat)
    (positive : 0 < refills)
    (within : simulator.admission.ramulator.FiresWithin latency)
    (willing : simulator.admission.ramulator.RejectsOnlyBusy)
    (passes : simulator.UsesSizes (simulator.LetsThrough refills))
    (maxMemoryCycles : Nat)
    (enough : simulator.enter.potential simulator.runConfig *
      max latency refills ≤ maxMemoryCycles) :
    simulator.Finished program
      (simulator.enter.potential simulator.runConfig * max latency refills)
      maxMemoryCycles := by
  let work (time : Nat) :=
    (simulator.before time).potential simulator.runConfig
  let working (time : Nat) :=
    (simulator.before time).hasWork simulator.runConfig = true
  have spends (time : Nat) (works : working time) :
      work (time + max latency refills) < work time := by
    by_contra unspent
    have stuck : simulator.Stuck time (time + max latency refills) :=
      ⟨by omega, Nat.not_lt.mp unspent⟩
    have stopped := stuck.stopped runs positive within willing passes le_rfl
    exact Bool.noConfusion (stopped.symm.trans works)
  obtain ⟨time, soon, stopped⟩ :=
    Potential.exists_stopped work working (max latency refills) spends
  obtain ⟨count, early, same, cycles, ended⟩ := simulator.exists_end
    (soon.trans enough) (Bool.eq_false_iff.mpr stopped)
  refine ⟨cycles.trans_le (early.trans soon), ?_, fun vault ref isAttached => ?_⟩
  · rw [same]
    exact ended
  · rw [same]
    have idle : (simulator.before count).vpuBusy simulator.runConfig =
        false := by
      simp only [RunState.hasWork, Bool.or_eq_false_iff] at ended
      exact ended.1.1.1.1
    have done : ((simulator.before count).store.cores ref).isDone = true := by
      rw [RunState.vpuBusy, List.any_eq_false] at idle
      have own := idle vault (List.mem_finRange vault)
      rw [show simulator.runConfig.attached.vpus vault = some ref from
        isAttached] at own
      simpa using own
    obtain ⟨-, pushes, heads⟩ := (runs.loaded vault ref
      isAttached).heads_of_turns (simulator.turns_before count)
    exact ⟨done, hasExecuted_of_heads heads done⟩

end Run

theorem runsPrograms_loadedCore :
    loadedCore.RunsPrograms (fun _ => 32)
      (fun _ => CoreSystem.loadGatherAdd) := by
  constructor
  case idle => exact ⟨rfl, rfl⟩
  case coresOnly => exact ⟨rfl, rfl⟩
  case loaded =>
    intro vault ref isAttached
    obtain rfl := ref_of_loadedCore isAttached
    exact hasLoaded_loadedCore
  case router =>
    intro vault ref isAttached
    obtain rfl := ref_of_loadedCore isAttached
    rfl
  case controller =>
    intro vault ref isAttached _
    obtain rfl := ref_of_loadedCore isAttached
    rfl
  case solvent =>
    intro ref _
    constructor
    · change (0 : ℚ) ≤ 512 * 1000000000 / 1000000000
      norm_num
    · change (0 : ℚ) ≤ 64 * 1000000000 / 1000000000
      norm_num
    · exact le_rfl
    · exact le_rfl
  case gathered => exact fun _ _ => rfl
  case issues => exact fun _ _ => Nat.succ_pos 7

theorem letsThrough_loadedCore
    {bytes : UInt32}
    (small : bytes.toNat ≤ 64) :
    loadedCore.LetsThrough 1 bytes := by
  have cast : (bytes.toNat : ℚ) ≤ 64 := by exact_mod_cast small
  constructor
  case fits =>
    have limit : loadedCore.admission.tsvLimitPerTick = 512 := by decide +kernel
    rw [AdmissionConfig.overBudget, limit, Bool.and_eq_false_iff]
    right
    rw [decide_eq_false_iff_not, not_lt, Nat.cast_zero]
    linarith
  case affords =>
    intro ref _
    constructor
    · change (bytes.toNat : ℚ) ≤ (1 : Nat) * (512 * 1000000000 / 1000000000)
      norm_num
      linarith
    · change (bytes.toNat : ℚ) ≤ (1 : Nat) * (64 * 1000000000 / 1000000000)
      norm_num
      exact small

theorem usesSizes_loadedCore :
    loadedCore.UsesSizes (loadedCore.LetsThrough 1) := by
  constructor
  case onTheWay =>
    intro burst member
    rw [toDo_loadedCore] at member
    exact absurd member (Multiset.notMem_zero burst)
  case sized =>
    constructor
    case requested => exact fun _ member => absurd member List.not_mem_nil
    case loads =>
      intro vault ref isAttached inst member isLoad
      obtain rfl := ref_of_loadedCore isAttached
      have known : inst ∈ CoreSystem.loadGatherAdd := member
      simp only [CoreSystem.loadGatherAdd, List.mem_cons, List.not_mem_nil,
        or_false] at known
      rcases known with rfl | rfl | rfl
      · exact letsThrough_loadedCore (by decide)
      · exact SIMDOpcode.noConfusion isLoad
      · exact SIMDOpcode.noConfusion isLoad
    case controller =>
      exact fun _ _ =>
        letsThrough_loadedCore (show (4 : UInt32).toNat ≤ 64 by decide)
    case program =>
      exact fun _ isAttached =>
        absurd isAttached.symm (Option.some_ne_none _)
    case logicLayer =>
      rintro (psau | program)
      · exact absurd rfl psau
      · exact absurd rfl program

/-- A load, a gather of two elements and a sum, on a memory of two ticks. -/
theorem loadedCore_finishes :
    loadedCore.Finished (fun _ => CoreSystem.loadGatherAdd)
      (loadedCore.enter.potential loadedCore.runConfig * max 2 1) 100 :=
  run_finishes loadedCore (fun _ => 32) (fun _ => CoreSystem.loadGatherAdd)
    runsPrograms_loadedCore 2 1 Nat.one_pos (FixedLatency.takes 2).within
    (FixedLatency.rejectsOnlyBusy 2) usesSizes_loadedCore 100 (by decide)

end RamulatorHbmSimulator

end PimGraphs
