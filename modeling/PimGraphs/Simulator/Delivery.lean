import Mathlib.Algebra.BigOperators.Group.Finset.Basic
import Mathlib.Algebra.Order.Group.Multiset
import PimGraphs.Simulator.Boundary
import PimGraphs.Simulator.Loop

/-!
# What a call leaves behind

Every burst handed to the attached router or to a port is, at every boundary
between two cycles, in exactly one of four places: completed, in flight in the
memory, pending on a port, or waiting in the router.  The loop's test sees the
ports and the reads of the running call only, so a call may stop while bursts
wait in the router or reads of an earlier call are in flight.
-/

namespace PimGraphs

namespace Event

/-- The burst an event hands to the attached router or queues directly on a
port. -/
def handedOver (attached : Option Nat) : Event → Option MemoryBurst
  | .routed router _ burst => if attached = some router then some burst else none
  | .enqueued none _ burst => some burst
  | _ => none

/-- The burst an event completes. -/
def completedBurst : Event → Option MemoryBurst
  | .completed _ burst => some burst
  | _ => none

end Event

namespace HierarchicalRouter

/-- Both queues are empty. -/
def Empty (router : HierarchicalRouter) : Prop :=
  router.localQueue = [] ∧ router.globalQueue = []

instance (router : HierarchicalRouter) : Decidable router.Empty :=
  inferInstanceAs (Decidable (_ ∧ _))

theorem waiting_eq_nil_iff (router : HierarchicalRouter) :
    router.waiting = [] ↔ router.Empty :=
  List.append_eq_nil_iff

/-- A burst handed over waits in one of the two queues. -/
theorem waiting_enqueueRequest
    (router : HierarchicalRouter)
    (burst : MemoryBurst) :
    ((router.enqueueRequest burst).waiting : Multiset MemoryBurst) =
      router.waiting + {burst} := by
  rw [← Multiset.coe_singleton, Multiset.coe_add, Multiset.coe_eq_coe]
  unfold enqueueRequest waiting
  split
  · simp
  · have swap : ([burst] ++ router.globalQueue).Perm
        (router.globalQueue ++ [burst]) :=
      List.perm_append_comm
    simpa using swap.append_left router.localQueue

theorem waiting_foldl_enqueueRequest
    (bursts : List MemoryBurst)
    (router : HierarchicalRouter) :
    ((bursts.foldl enqueueRequest router).waiting : Multiset MemoryBurst) =
      router.waiting + (bursts : Multiset MemoryBurst) := by
  induction bursts generalizing router with
  | nil => simp
  | cons burst rest inductionHypothesis =>
      rw [List.foldl_cons, inductionHypothesis, waiting_enqueueRequest,
        add_assoc, Multiset.singleton_add, Multiset.cons_coe]

/-- Delivery splits a queue into what is sent and what stays. -/
theorem deliver_append
    (used : ℚ)
    (queue : List MemoryBurst) :
    (deliver used queue).2.1 ++ (deliver used queue).2.2 = queue := by
  rw [deliver_eq_send]
  exact TokenBucket.send_append _ used queue

/-- A tick sends some waiting bursts and keeps the others. -/
theorem waiting_tick (router : HierarchicalRouter) :
    (router.waiting : Multiset MemoryBurst) =
      (router.tick.2 : Multiset MemoryBurst) + router.tick.1.waiting := by
  have localSplit := deliver_append
    (router.localUsed + router.localBytesPerTick) router.localQueue
  have globalSplit := deliver_append
    (router.globalUsed + router.globalBytesPerTick) router.globalQueue
  have localCounts := congrArg (fun queue : List MemoryBurst =>
    (queue : Multiset MemoryBurst)) localSplit
  have globalCounts := congrArg (fun queue : List MemoryBurst =>
    (queue : Multiset MemoryBurst)) globalSplit
  simp only [← Multiset.coe_add] at localCounts globalCounts
  simp only [waiting, tick, ← Multiset.coe_add]
  rw [← localCounts, ← globalCounts]
  abel

end HierarchicalRouter

namespace PseudoChannelMultiplexer

/-- All bursts pending on the ports. -/
def pendingBursts (mux : PseudoChannelMultiplexer) : Multiset MemoryBurst :=
  ∑ pcId, ((mux.port pcId).pending : Multiset MemoryBurst)

theorem pendingBursts_eq_zero_iff (mux : PseudoChannelMultiplexer) :
    mux.pendingBursts = 0 ↔ ∀ pcId, (mux.port pcId).pending = [] := by
  simp [pendingBursts, Finset.sum_eq_zero_iff]

theorem pendingBursts_setPort
    (mux : PseudoChannelMultiplexer)
    (pcId : PcId)
    (port : PseudoChannelPort) :
    (mux.setPort pcId port).pendingBursts + (mux.port pcId).pending =
      mux.pendingBursts + port.pending := by
  have others : ∑ other ∈ Finset.univ.erase pcId,
        (((mux.setPort pcId port).port other).pending :
          Multiset MemoryBurst) =
      ∑ other ∈ Finset.univ.erase pcId,
        ((mux.port other).pending : Multiset MemoryBurst) := by
    refine Finset.sum_congr rfl fun other member => ?_
    rw [port_setPort, if_neg (Finset.ne_of_mem_erase member)]
  rw [pendingBursts, pendingBursts,
    ← Finset.add_sum_erase _ _ (Finset.mem_univ pcId), others,
    ← Finset.add_sum_erase Finset.univ
      (fun other => ((mux.port other).pending : Multiset MemoryBurst))
      (Finset.mem_univ pcId),
    port_setPort, if_pos rfl]
  abel

theorem pendingBursts_enqueue
    (mux : PseudoChannelMultiplexer)
    (pcId : PcId)
    (burst : MemoryBurst) :
    (mux.enqueue pcId burst).pendingBursts = mux.pendingBursts + {burst} := by
  have moved := mux.pendingBursts_setPort pcId
    ((mux.port pcId).enqueue burst)
  rw [PseudoChannelPort.pending_enqueue, ← Multiset.coe_add,
    Multiset.coe_singleton, ← add_assoc, add_right_comm] at moved
  exact add_right_cancel moved

end PseudoChannelMultiplexer

/-- Bursts handed over that have not completed, for the router a simulator is
attached to. -/
def toDo {M : Type} (attached : Option Nat) (traffic : Traffic M) :
    Multiset MemoryBurst :=
  (match attached with
    | none => 0
    | some ref => ((traffic.1 ref).waiting : Multiset MemoryBurst)) +
  traffic.2.mux.pendingBursts +
  (traffic.2.inFlightBursts.map Prod.snd : List MemoryBurst)

theorem toDo_eq_zero_iff {M : Type}
    (attached : Option Nat)
    (traffic : Traffic M) :
    toDo attached traffic = 0 ↔
      (∀ ref, attached = some ref → (traffic.1 ref).Empty) ∧
        (∀ pcId, (traffic.2.mux.port pcId).pending = []) ∧
          traffic.2.inflight = [] := by
  have router : (match attached with
      | none => 0
      | some ref => ((traffic.1 ref).waiting : Multiset MemoryBurst)) = 0 ↔
      ∀ ref, attached = some ref → (traffic.1 ref).Empty := by
    cases attached with
    | none => simp
    | some ref => simp [← HierarchicalRouter.waiting_eq_nil_iff]
  unfold toDo
  rw [add_eq_zero, add_eq_zero, router,
    PseudoChannelMultiplexer.pendingBursts_eq_zero_iff, and_assoc]
  simp [Driver.inFlightBursts]

/-- Every burst handed over since `initial` has completed or is still to do. -/
def Conserved {M : Type} (attached : Option Nat) (initial last : Traffic M) :
    Prop :=
  toDo attached initial +
      (last.2.history.filterMap (Event.handedOver attached) :
        Multiset MemoryBurst) =
    (last.2.history.filterMap Event.completedBurst : Multiset MemoryBurst) +
      toDo attached last

namespace Conserved

variable {M : Type} {attached : Option Nat} {initial last : Traffic M}

theorem of_history_nil (fresh : initial.2.history = []) :
    Conserved attached initial initial := by
  simp [Conserved, fresh]

/-- A step that adds to what is to do exactly what it hands over, and
completes nothing. -/
theorem of_handedOver
    (conserved : Conserved attached initial last)
    {next : Traffic M}
    (events : List Event)
    (history : next.2.history = last.2.history ++ events)
    (noCompletion : events.filterMap Event.completedBurst = [])
    (added : toDo attached next = toDo attached last +
      (events.filterMap (Event.handedOver attached) :
        Multiset MemoryBurst)) :
    Conserved attached initial next := by
  rw [Conserved] at conserved ⊢
  rw [history, List.filterMap_append, List.filterMap_append, noCompletion,
    List.append_nil, added, ← Multiset.coe_add, ← add_assoc, conserved,
    add_assoc]

theorem enqueue
    (conserved : Conserved attached initial last)
    (burst : MemoryBurst) :
    Conserved attached initial (last.1, last.2.enqueue none burst) := by
  apply conserved.of_handedOver _ rfl rfl
  simp only [toDo, Driver.enqueue, Driver.inFlightBursts,
    PseudoChannelMultiplexer.pendingBursts_enqueue, List.filterMap_cons,
    List.filterMap_nil, Event.handedOver, Multiset.coe_singleton]
  abel

theorem route
    (conserved : Conserved attached initial last)
    (ref : Nat)
    (producer : Producer)
    (bursts : List MemoryBurst) :
    Conserved attached initial
      (Function.update last.1 ref
        (bursts.foldl HierarchicalRouter.enqueueRequest (last.1 ref)),
        last.2.recordRouted ref producer bursts) := by
  have noCompletion : (bursts.map (Event.routed ref producer)).filterMap
      Event.completedBurst = [] := by
    simp [List.filterMap_map, Function.comp_def, Event.completedBurst]
  apply conserved.of_handedOver _ rfl noCompletion
  by_cases here : attached = some ref
  · have handed : (bursts.map (Event.routed ref producer)).filterMap
        (Event.handedOver attached) = bursts := by
      simp [List.filterMap_map, Function.comp_def, Event.handedOver, here]
    rw [handed, here]
    simp only [toDo, Function.update_self, Driver.recordRouted,
      Driver.inFlightBursts,
      HierarchicalRouter.waiting_foldl_enqueueRequest]
    abel
  · have handed : (bursts.map (Event.routed ref producer)).filterMap
        (Event.handedOver attached) = [] := by
      simp [List.filterMap_map, Function.comp_def, Event.handedOver, here]
    rw [handed, Multiset.coe_nil, add_zero]
    cases attached with
    | none => rfl
    | some other =>
        have differ : other ≠ ref := fun equal => here (congrArg some equal)
        simp only [toDo, Function.update_of_ne differ]
        rfl

theorem enqueueAll_via
    (ref : Nat)
    (bursts : List MemoryBurst)
    (driver : Driver M) :
    (driver.enqueueAll (some ref) bursts).mux.pendingBursts =
        driver.mux.pendingBursts + (bursts : Multiset MemoryBurst) ∧
      (driver.enqueueAll (some ref) bursts).inflight = driver.inflight ∧
      (driver.enqueueAll (some ref) bursts).history = driver.history ++
        bursts.map fun burst => .enqueued (some ref) burst.pcId burst := by
  unfold Driver.enqueueAll
  induction bursts generalizing driver with
  | nil => simp
  | cons burst rest inductionHypothesis =>
      obtain ⟨pending, inflight, history⟩ :=
        inductionHypothesis (driver.enqueue (some ref) burst)
      refine ⟨?_, inflight, ?_⟩
      · rw [List.foldl_cons, pending, Driver.enqueue,
          PseudoChannelMultiplexer.pendingBursts_enqueue, add_assoc,
          Multiset.singleton_add, Multiset.cons_coe]
      · rw [List.foldl_cons, history, Driver.enqueue, List.map_cons,
          List.append_assoc, List.singleton_append]

theorem deliver
    (conserved : Conserved attached initial last)
    (ref : Nat)
    (here : attached = some ref) :
    Conserved attached initial
      (Function.update last.1 ref (last.1 ref).tick.1,
        last.2.enqueueAll (some ref) (last.1 ref).tick.2) := by
  obtain ⟨pending, inflight, history⟩ :=
    enqueueAll_via ref (last.1 ref).tick.2 last.2
  apply conserved.of_handedOver _ history
  · simp [List.filterMap_map, Function.comp_def, Event.completedBurst]
  · have handed : ((last.1 ref).tick.2.map fun burst =>
        Event.enqueued (some ref) burst.pcId burst).filterMap
          (Event.handedOver attached) = [] := by
      simp [List.filterMap_map, Function.comp_def, Event.handedOver]
    rw [handed, here]
    simp only [toDo, Function.update_self, pending, Driver.inFlightBursts,
      inflight, Multiset.coe_nil, add_zero,
      (last.1 ref).waiting_tick]
    abel

/-- Components lose and duplicate nothing. -/
theorem of_moves
    {middle : Traffic M}
    (conserved : Conserved attached initial middle)
    (moves : Moves attached middle last) :
    Conserved attached initial last := by
  induction moves with
  | refl => exact conserved
  | enqueue burst _ inductionHypothesis =>
      exact inductionHypothesis.enqueue burst
  | route ref producer bursts _ inductionHypothesis =>
      exact inductionHypothesis.route ref producer bursts
  | deliver ref here _ inductionHypothesis =>
      exact inductionHypothesis.deliver ref here

/-- Neither does the admission of the front burst of a port. -/
theorem acceptRead
    {routers : Nat → HierarchicalRouter}
    {driver : Driver M}
    (conserved : Conserved attached initial (routers, driver))
    {pcId : PcId}
    {burst : MemoryBurst}
    {rest : List MemoryBurst}
    (front : (driver.mux.port pcId).pending = burst :: rest)
    (memory : M) :
    Conserved attached initial
      (routers, driver.acceptRead pcId burst memory) := by
  apply conserved.of_handedOver [.admitted pcId _ burst] rfl rfl
  have moved := driver.mux.pendingBursts_setPort pcId
    (driver.mux.port pcId).pop
  rw [PseudoChannelPort.pending_pop, front, List.tail_cons,
    ← Multiset.cons_coe, ← Multiset.singleton_add, ← add_assoc] at moved
  have pending : driver.mux.pendingBursts =
      (driver.mux.setPort pcId (driver.mux.port pcId).pop).pendingBursts +
        {burst} :=
    (add_right_cancel moved).symm
  have handed : [Event.admitted pcId driver.nextSlot burst].filterMap
      (Event.handedOver attached) = [] := rfl
  rw [handed, Multiset.coe_nil, add_zero]
  simp only [toDo, pending, Driver.acceptRead, Driver.inFlightBursts,
    List.map_append, ← Multiset.coe_add, List.map_cons, List.map_nil,
    Multiset.coe_singleton]
  change _ + (driver.mux.setPort pcId _).pendingBursts + _ = _
  abel

/-- Completing a slot moves its burst from in flight to completed. -/
theorem complete
    {routers : Nat → HierarchicalRouter}
    {driver : Driver M}
    (conserved : Conserved attached initial (routers, driver))
    (slot : Nat) :
    Conserved attached initial (routers, (driver.complete slot).1) := by
  cases found : driver.inflight.lookup slot with
  | none => simpa [Driver.complete_eq, found] using conserved
  | some request =>
      obtain ⟨before, after, split, erased⟩ :=
        Driver.Accounts.lookup_split found
      have inflight : (driver.complete slot).1.inflight = before ++ after :=
        (Driver.complete_inflight found).trans erased
      have handed : (completionEvents slot request.burst).filterMap
          (Event.handedOver attached) = [] :=
        filterMap_completionEvents_eq_nil _ _ _ (fun _ _ => rfl)
          fun _ _ => rfl
      have completed : (completionEvents slot request.burst).filterMap
          Event.completedBurst = [request.burst] := by
        cases due : request.burst.onComplete <;>
          simp [completionEvents, Event.completedBurst, due]
      have remaining : toDo attached (routers, driver) =
          {request.burst} +
            toDo attached (routers, (driver.complete slot).1) := by
        simp only [toDo, Driver.complete_mux, Driver.inFlightBursts, inflight,
          split,
          List.map_append, List.map_cons, ← Multiset.coe_add,
          ← Multiset.cons_coe, ← Multiset.singleton_add]
        abel
      rw [Conserved] at conserved ⊢
      simp only [Driver.complete_history found, List.filterMap_append, handed,
        completed, List.append_nil]
      rw [conserved, remaining, ← Multiset.coe_add, Multiset.coe_singleton,
        add_assoc]

end Conserved

namespace RunState

variable {F M : Type} {config : RunConfig F M} {initial : Traffic M}
variable {state : RunState F M}

/-- A state in which no burst handed over since `initial` has got lost. -/
def Conserves (config : RunConfig F M) (initial : Traffic M)
    (state : RunState F M) : Prop :=
  Conserved config.attached.router initial state.traffic

theorem Conserves.runAdmission
    (conserves : Conserves config initial state) :
    Conserves config initial (state.runAdmission config) := by
  have keeps : WaveLoop.KeptByAdmission config.admission
      fun driver : Driver M =>
        Conserved config.attached.router initial
          (state.store.routers, driver) :=
    fun _ _ _ _ memory conserved front _ _ =>
      conserved.acceptRead front memory
  exact WaveLoop.kept_admissionLoop keeps conserves

section Memory

variable [Zero F] [One F]

theorem routers_runCallback
    (store : Store F)
    (callback : Callback) :
    (runCallback store callback).routers = store.routers := by
  cases callback <;> rfl

theorem routers_completeSlot
    (state : RunState F M)
    (slot : Nat) :
    (state.completeSlot slot).store.routers = state.store.routers := by
  rw [completeSlot_eq]
  simp only
  split
  · rfl
  · exact routers_runCallback _ _

theorem Conserves.completeSlot
    (conserves : Conserves config initial state)
    (slot : Nat) :
    Conserves config initial (state.completeSlot slot) := by
  rw [Conserves, traffic, routers_completeSlot, completeSlot_driver]
  exact Conserved.complete conserves slot

theorem Conserves.tickMemory
    (conserves : Conserves config initial state) :
    Conserves config initial (state.tickMemory config) := by
  unfold RunState.tickMemory
  refine List.foldlRecOn (motive := Conserves config initial) _ _ ?_ ?_
  · exact conserves
  · intro state stateConserves slot _
    exact stateConserves.completeSlot slot

end Memory

variable [Zero F] [One F] [Add F] [Sub F] [Mul F] [Div F] [NatCast F]

theorem Conserves.cycle
    (conserves : Conserves config initial state) :
    Conserves config initial (state.cycle config) := by
  have moved : Conserves config initial (state.tickComponents config) :=
    conserves.of_moves (tickComponents_moves config .refl)
  exact moved.runAdmission.tickMemory

theorem Conserves.loop
    (cycles : Nat)
    (conserves : Conserves config initial state) :
    Conserves config initial (state.loop config cycles) := by
  induction cycles generalizing state with
  | zero => exact conserves
  | succ cycles inductionHypothesis =>
      unfold RunState.loop
      split
      · exact inductionHypothesis conserves.cycle
      · exact conserves

/-- Bursts the loop's test does not look at: those waiting in the attached
router, and reads in flight that an earlier call admitted. -/
def unseenWork (config : RunConfig F M) (state : RunState F M) : Prop :=
  (∃ ref, config.attached.router = some ref ∧
    ¬ (state.store.routers ref).Empty) ∨
  ∃ entry ∈ state.driver.inflight, entry.2.live = false

end RunState

namespace RamulatorHbmSimulator

variable {F M : Type}

/-- A simulator between two calls: the memory holds exactly the reads in the
table, under distinct slots, and none of them counts for a running call. -/
structure WellFormed (simulator : RamulatorHbmSimulator F M) : Prop where
  dead : ∀ entry ∈ simulator.inflight, entry.2.live = false
  used : ∀ entry ∈ simulator.inflight, entry.1 < simulator.nextSlot
  distinct : (simulator.inflight.map Prod.fst).Nodup
  held : simulator.admission.ramulator.held simulator.memory =
    ((simulator.inflight.map Prod.fst : List Nat) : Multiset Nat)

theorem WellFormed.entered
    {simulator : RamulatorHbmSimulator F M}
    (wellFormed : simulator.WellFormed) :
    Driver.Entered simulator.admission simulator.enter.driver :=
  entered_enter wellFormed.dead wellFormed.used wellFormed.distinct
    wellFormed.held

/-- Nothing is left behind: the attached router and all ports are empty, and
the bursts completed are those that were on their way when the call began and
those handed over since. -/
structure Delivered
    (simulator : RamulatorHbmSimulator F M)
    (state : RunState F M) : Prop where
  router_empty : ∀ ref, simulator.attached.router = some ref →
    (state.store.routers ref).Empty
  ports_empty : ∀ pcId, (state.driver.mux.port pcId).pending = []
  completed :
    toDo simulator.attached.router simulator.enter.traffic +
        (state.driver.history.filterMap
          (Event.handedOver simulator.attached.router) :
          Multiset MemoryBurst) =
      (state.driver.history.filterMap Event.completedBurst :
        Multiset MemoryBurst)

variable [Zero F] [One F] [Add F] [Sub F] [Mul F] [Div F] [NatCast F]

theorem runState_balanced
    {simulator : RamulatorHbmSimulator F M}
    (wellFormed : simulator.WellFormed)
    (cycles : Nat) :
    RunState.Balanced simulator.runConfig simulator.enter.driver
      (simulator.runState cycles).driver :=
  RunState.Balanced.loop cycles
    ⟨.of_entered wellFormed.entered, wellFormed.entered.held⟩

theorem runState_conserves
    (simulator : RamulatorHbmSimulator F M)
    (cycles : Nat) :
    RunState.Conserves simulator.runConfig simulator.enter.traffic
      (simulator.runState cycles) :=
  RunState.Conserves.loop cycles (Conserved.of_history_nil rfl)

/-- A call leaves a well-formed simulator behind. -/
theorem wellFormed_run
    {simulator : RamulatorHbmSimulator F M}
    (wellFormed : simulator.WellFormed)
    (maxMemoryCycles : Nat) :
    (simulator.run maxMemoryCycles).1.WellFormed := by
  have balanced := runState_balanced wellFormed maxMemoryCycles
  have accounts := balanced.accounts
  have distinct := (accounts.slots.map Prod.fst).nodup_iff.mp
    accounts.distinct
  rw [List.map_append] at distinct
  constructor
  case dead =>
    intro entry member
    obtain ⟨original, _, rfl⟩ := List.mem_map.mp member
    rfl
  case used =>
    intro entry member
    obtain ⟨original, originalMember, rfl⟩ := List.mem_map.mp member
    refine accounts.used (original.1, original.2.burst)
      (accounts.slots.mem_iff.mpr (List.mem_append_right _ ?_))
    exact List.mem_map_of_mem originalMember
  case distinct =>
    have unique := (List.nodup_append.mp distinct).2.1
    simpa [run, leave, Driver.inFlightBursts, Function.comp_def] using unique
  case held =>
    have held := balanced.held
    rw [run, leave, List.map_map]
    exact held

/-- When the loop has found no more work, what is left behind is the work its
test does not see. -/
theorem delivered_iff
    {simulator : RamulatorHbmSimulator F M}
    (wellFormed : simulator.WellFormed)
    (cycles : Nat)
    (stopped : (simulator.runState cycles).hasWork simulator.runConfig =
      false) :
    simulator.Delivered (simulator.runState cycles) ↔
      ¬ (simulator.runState cycles).unseenWork simulator.runConfig := by
  have accounts := (runState_balanced wellFormed cycles).accounts
  have conserves := runState_conserves simulator cycles
  generalize simulator.runState cycles = state at *
  simp only [RunState.hasWork, Bool.or_eq_false_iff, decide_eq_false_iff_not,
    Nat.not_lt, Nat.le_zero_eq] at stopped
  obtain ⟨⟨_, noPending⟩, noneOutstanding⟩ := stopped
  have portsEmpty := (PseudoChannelMultiplexer.totalPendingBursts_eq_zero_iff
    _).mp noPending
  have noLive : state.driver.liveRequests = [] := by
    rw [← List.length_eq_zero_iff, ← accounts.outstanding, noneOutstanding]
  have allDead : ∀ entry ∈ state.driver.inflight,
      entry.2.live = false := by
    simpa [Driver.liveRequests] using noLive
  have nothingToDo := toDo_eq_zero_iff simulator.attached.router state.traffic
  constructor
  · intro delivered
    have remaining : toDo simulator.attached.router state.traffic = 0 :=
      left_eq_add.mp (delivered.completed.symm.trans conserves)
    obtain ⟨routerEmpty, -, noneInFlight⟩ := nothingToDo.mp remaining
    rintro (⟨ref, attached, notEmpty⟩ | ⟨entry, member, -⟩)
    · exact notEmpty (routerEmpty ref attached)
    · rw [show state.driver.inflight = [] from noneInFlight] at member
      exact List.not_mem_nil member
  · intro allSeen
    have routerEmpty : ∀ ref, simulator.attached.router = some ref →
        (state.store.routers ref).Empty := by
      intro ref attached
      by_contra notEmpty
      exact allSeen (Or.inl ⟨ref, attached, notEmpty⟩)
    have noneInFlight : state.driver.inflight = [] := by
      refine List.eq_nil_iff_forall_not_mem.mpr fun entry member => ?_
      exact allSeen (Or.inr ⟨entry, member, allDead entry member⟩)
    have remaining : toDo simulator.attached.router state.traffic = 0 :=
      nothingToDo.mpr ⟨routerEmpty, portsEmpty, noneInFlight⟩
    refine ⟨routerEmpty, portsEmpty, ?_⟩
    have balance := conserves
    rw [RunState.Conserves, Conserved, show simulator.runConfig.attached =
      simulator.attached from rfl, remaining, add_zero] at balance
    exact balance

/-- A call that stops before its budget has delivered everything exactly when
its test never fails while there is work it does not see. -/
theorem run_delivers_iff
    (simulator : RamulatorHbmSimulator F M)
    (wellFormed : simulator.WellFormed)
    (maxMemoryCycles : Nat) :
    ((simulator.run maxMemoryCycles).2.memoryCycles < maxMemoryCycles →
        simulator.Delivered (simulator.runState maxMemoryCycles)) ↔
      ∀ cycles < maxMemoryCycles,
        (simulator.runState cycles).unseenWork simulator.runConfig →
          (simulator.runState cycles).hasWork simulator.runConfig = true := by
  constructor
  · intro delivers cycles bound unseen
    by_contra noWork
    have stopped := Bool.eq_false_iff.mpr noWork
    have final : simulator.runState maxMemoryCycles =
        simulator.runState cycles :=
      runState_of_not_hasWork stopped bound.le
    have early : (simulator.run maxMemoryCycles).2.memoryCycles <
        maxMemoryCycles := by
      obtain ⟨count, stops⟩ := RunState.exists_stopsAfter simulator.runConfig
        cycles simulator.enter
      have executed : (simulator.runState cycles).cycles = 0 + count :=
        stops.cycles_eq
      have := stops.count_le
      change (simulator.runState maxMemoryCycles).cycles < maxMemoryCycles
      rw [final]
      omega
    have delivered := delivers early
    rw [final] at delivered
    exact (delivered_iff wellFormed cycles stopped).mp delivered unseen
  · intro condition early
    obtain ⟨count, stops⟩ := RunState.exists_stopsAfter simulator.runConfig
      maxMemoryCycles simulator.enter
    have executed : (simulator.run maxMemoryCycles).2.memoryCycles =
        0 + count :=
      stops.cycles_eq
    have bound : count < maxMemoryCycles := by omega
    have final : simulator.runState maxMemoryCycles =
        simulator.runState count :=
      stops.loop_eq.trans (stops.loop_of_le le_rfl).symm
    have stopped : (simulator.runState count).hasWork simulator.runConfig =
        false := by
      rw [← final, runState, stops.loop_eq]
      exact stops.stopped bound
    rw [final, delivered_iff wellFormed count stopped]
    intro unseen
    exact Bool.noConfusion ((condition count bound unseen).symm.trans stopped)

theorem wellFormed_singleBurst (latency : Nat) :
    (singleBurst latency).WellFormed where
  dead := by simp [singleBurst, initial]
  used := by simp [singleBurst, initial]
  distinct := by simp [singleBurst, initial]
  held := rfl

/-- Two sequential reads on every port, and a router that still holds three
global bursts. -/
def routedReads : RamulatorHbmSimulator ℚ (List (Nat × Nat)) :=
  { sequentialReads with
    attached := { router := some 0 }
    store := sequentialReads.store.setRouter 0
      ((List.replicate 3 { addr := 0x80000000, pcId := 5 }).foldl
        HierarchicalRouter.enqueueRequest
        (sequentialReads.store.routers 0)) }

theorem routedReads_delivers_iff :
    ((routedReads.run 100).2.memoryCycles < 100 →
        routedReads.Delivered (routedReads.runState 100)) ↔
      ∀ cycles < 100,
        (routedReads.runState cycles).unseenWork routedReads.runConfig →
          (routedReads.runState cycles).hasWork routedReads.runConfig = true :=
  run_delivers_iff routedReads
    { dead := List.forall_mem_nil _
      used := List.forall_mem_nil _
      distinct := List.nodup_nil
      held := rfl } 100

/-- A vertex program of no vaults, just started, with a router attached. -/
def singleVertex (latency : Nat) :
    RamulatorHbmSimulator ℚ (List (Nat × Nat)) :=
  let simulator := RamulatorHbmSimulator.initial FloatOps.atZero
    { ramulator := FixedLatency.ramulator latency } []
  let (program, store) := (simulator.store.programs 0).startVertex
    simulator.store { outputAddr := 64 }
  { simulator with
    store := store.setProgram 0 program
    attached := { router := some 0, vertexProgram := some 0 } }

/-- The write-back of the only vertex stays in the router. -/
theorem singleVertex_not_delivered :
    ¬ (((singleVertex 2).run 100).2.memoryCycles < 100 →
      (singleVertex 2).Delivered ((singleVertex 2).runState 100)) := by
  intro delivers
  have early : ((singleVertex 2).run 100).2.memoryCycles < 100 := by
    decide +kernel
  have waiting : ¬ (((singleVertex 2).runState 100).store.routers 0).Empty := by
    decide +kernel
  exact waiting ((delivers early).router_empty 0 rfl)

end RamulatorHbmSimulator

end PimGraphs
