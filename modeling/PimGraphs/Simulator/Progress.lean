import PimGraphs.Compute.CoreWork
import PimGraphs.Library.Potential
import PimGraphs.Memory.RouterProgress
import PimGraphs.Simulator.Drain
import PimGraphs.Simulator.Requests
import PimGraphs.Simulator.Turns

/-!
# Work left to a run

A run of cores and their controllers has an amount of work in front of it: that
of the instructions left, three units for each read to be issued and for each
burst that waits in the router, two for each that is pending on a port, and one
for each in flight.  Every turn spends some of it, or leaves everything alone
that decides what happens next.
-/

namespace PimGraphs

namespace RunState

variable {F M : Type}

/-- Neither an accumulation unit nor a vertex program is attached. -/
structure CoresOnly (config : RunConfig F M) : Prop where
  noPsau : config.attached.psau = none
  noProgram : config.attached.vertexProgram = none

section Potential

variable (config : RunConfig F M) (state : RunState F M)

/-- The work left to the cores of all vaults. -/
def coreWork : Nat :=
  ∑ vault, (config.attached.vpus vault).elim 0 fun ref =>
    (state.store.cores ref).work

/-- Reads the attached controller has still to issue. -/
def readsToIssue : Nat :=
  config.attached.piccolo.elim 0 fun ref => (state.store.piccolos ref).toIssue

/-- Bursts waiting in the attached router. -/
def burstsWaiting : Nat :=
  config.attached.router.elim 0 fun ref =>
    (state.store.routers ref).waiting.length

/-- All the work left. -/
def potential : Nat :=
  state.coreWork config + 3 * state.readsToIssue config +
    3 * state.burstsWaiting config +
      2 * state.driver.mux.pendingBursts.card + state.driver.inflight.length

end Potential

/-- Nothing has happened but that a router has saved credit. -/
structure Idles
    (config : RunConfig F M)
    (before after : RunState F M) : Prop where
  cores : after.store.cores = before.store.cores
  piccolos : after.store.piccolos = before.store.piccolos
  mux : after.driver.mux = before.driver.mux
  inflight : after.driver.inflight = before.driver.inflight
  router : ∀ ref, config.attached.router = some ref →
    (before.store.routers ref).Saves (after.store.routers ref)

/-- A turn spends work, or nothing happens. -/
abbrev Descends (config : RunConfig F M) :
    RunState F M → RunState F M → Prop :=
  Potential.Descends (potential config) (Idles config)

/-- What holds of a run without GRU_UPDATE whose cores hand their loads to the
attached router and gather on the attached controller only. -/
structure Steady (config : RunConfig F M) (state : RunState F M) : Prop where
  noGru : ∀ vault ref, config.attached.vpus vault = some ref →
    (state.store.cores ref).NoGru
  router : ∀ vault ref, config.attached.vpus vault = some ref →
    config.attached.router = some (state.store.cores ref).router
  leaves : ∀ vault ref, config.attached.vpus vault = some ref →
    ∀ controller, config.attached.piccolo ≠ some controller →
      (state.store.cores ref).LeavesController controller
  solvent : ∀ ref, config.attached.router = some ref →
    (state.store.routers ref).Solvent
  handedOver : ∀ event ∈ state.driver.history, ∀ burst,
    event.requested = some burst →
      event.handedOver config.attached.router = some burst
  issues : ∀ ref, config.attached.piccolo = some ref →
    0 < (state.store.piccolos ref).maxOutstanding
  /-- An unfinished gather is waited for. -/
  gathers : ∀ controller, config.attached.piccolo = some controller →
    (state.store.piccolos controller).done = true ∨
      ∃ vault ref, config.attached.vpus vault = some ref ∧
        (state.store.cores ref).piccolo = controller ∧
          (state.store.cores ref).isWaitingForPiccolo = true

section Frame

variable {config : RunConfig F M} {before middle after : RunState F M}

theorem Idles.refl (state : RunState F M) : Idles config state state :=
  ⟨rfl, rfl, rfl, rfl, fun _ _ => .refl _⟩

theorem Idles.trans
    (earlier : Idles config before middle)
    (later : Idles config middle after) :
    Idles config before after where
  cores := later.cores.trans earlier.cores
  piccolos := later.piccolos.trans earlier.piccolos
  mux := later.mux.trans earlier.mux
  inflight := later.inflight.trans earlier.inflight
  router := fun ref isAttached =>
    (earlier.router ref isAttached).trans (later.router ref isAttached)

/-- Where nothing happens no work is spent. -/
theorem Idles.potential
    (idles : Idles config before after) :
    after.potential config = before.potential config := by
  have cores : after.coreWork config = before.coreWork config := by
    rw [coreWork, coreWork, idles.cores]
  have reads : after.readsToIssue config = before.readsToIssue config := by
    rw [readsToIssue, readsToIssue, idles.piccolos]
  have waiting : after.burstsWaiting config = before.burstsWaiting config := by
    unfold burstsWaiting
    cases isAttached : config.attached.router with
    | none => rfl
    | some ref =>
        exact congrArg List.length (idles.router ref isAttached).waiting
  rw [RunState.potential, RunState.potential, cores, reads, waiting,
    idles.mux, idles.inflight]

theorem Idles.descends (idles : Idles config before after) :
    Descends config before after :=
  .idle idles.potential idles

/-- Everything but the credit of the routers is the same. -/
theorem descends_of_same
    (cores : after.store.cores = before.store.cores)
    (piccolos : after.store.piccolos = before.store.piccolos)
    (routers : after.store.routers = before.store.routers)
    (mux : after.driver.mux = before.driver.mux)
    (inflight : after.driver.inflight = before.driver.inflight) :
    Descends config before after := by
  apply Idles.descends
  refine ⟨cores, piccolos, mux, inflight, fun ref _ => ?_⟩
  rw [routers]
  exact .refl _

/-- The parts of a run keep their duties, its controllers and routers stay in
order, and all that is requested is handed over. -/
theorem Steady.of_sameDuties
    (steady : Steady config before)
    (cores : ∀ ref,
      (before.store.cores ref).SameDuties (after.store.cores ref))
    (issues : ∀ ref, (after.store.piccolos ref).maxOutstanding =
      (before.store.piccolos ref).maxOutstanding)
    (done : ∀ ref, (before.store.piccolos ref).done = true →
      (after.store.piccolos ref).done = true)
    (solvent : ∀ ref, (before.store.routers ref).Solvent →
      (after.store.routers ref).Solvent)
    {events : List Event}
    (history : after.driver.history = before.driver.history ++ events)
    (handedOver : ∀ event ∈ events, ∀ burst, event.requested = some burst →
      event.handedOver config.attached.router = some burst) :
    Steady config after where
  noGru := fun vault ref isAttached =>
    (cores ref).noGru (steady.noGru vault ref isAttached)
  router := by
    intro vault ref isAttached
    rw [(cores ref).links.router]
    exact steady.router vault ref isAttached
  leaves := fun vault ref isAttached controller spare =>
    (cores ref).leavesController
      (steady.leaves vault ref isAttached controller spare)
  solvent := fun ref isAttached => solvent ref (steady.solvent ref isAttached)
  handedOver := by
    rw [history]
    exact List.forall_mem_append.mpr ⟨steady.handedOver, handedOver⟩
  issues := by
    intro ref isAttached
    rw [issues]
    exact steady.issues ref isAttached
  gathers := by
    intro controller isAttached
    refine (steady.gathers controller isAttached).imp (done controller) ?_
    rintro ⟨vault, ref, isCore, refers, waits⟩
    exact ⟨vault, ref, isCore, (cores ref).links.piccolo.trans refers,
      (cores ref).gathering.trans waits⟩

end Frame

section Turn

variable [Zero F] [One F] [Add F] [Sub F] [Mul F] [Div F] [NatCast F]
variable {config : RunConfig F M} {state : RunState F M}

omit [Zero F] [One F] [Add F] [Sub F] [Mul F] [Div F] [NatCast F] in
theorem routers_issuePiccolo :
    (state.issuePiccolo config).store.routers = state.store.routers := by
  unfold issuePiccolo
  split
  · rfl
  · split <;> rfl

theorem routers_tickCore (ref : Nat) :
    (state.tickCore config ref).store.routers =
      Function.update state.store.routers (state.store.cores ref).router
        ((state.coreResult config ref).request.toList.foldl
          HierarchicalRouter.enqueueRequest
            (state.store.routers (state.store.cores ref).router)) := by
  unfold tickCore route
  simp only [Store.setRouter, SIMDCore.routers_installTick]
  rfl

theorem solvent_tickCore
    {ref router : Nat}
    (solvent : (state.store.routers router).Solvent) :
    ((state.tickCore config ref).store.routers router).Solvent := by
  rw [routers_tickCore]
  by_cases own : router = (state.store.cores ref).router
  · rw [own, Function.update_self]
    rw [own] at solvent
    exact List.foldlRecOn (motive := HierarchicalRouter.Solvent) _ _ solvent
      fun _ before burst _ => before.enqueueRequest burst
  · rw [Function.update_of_ne own]
    exact solvent

omit [Add F] [Sub F] [Mul F] [Div F] [NatCast F] in
/-- What callbacks leave alone. -/
theorem runCallback_keeps
    (store : Store F)
    (callback : Callback)
    (ref : Nat) :
    (store.cores ref).SameDuties ((runCallback store callback).cores ref) ∧
      ((runCallback store callback).piccolos ref).maxOutstanding =
          (store.piccolos ref).maxOutstanding ∧
        ((store.piccolos ref).done = true →
          ((runCallback store callback).piccolos ref).done = true) ∧
          (runCallback store callback).routers = store.routers := by
  cases callback with
  | loadReply replied =>
      refine ⟨?_, rfl, id, rfl⟩
      simp only [runCallback, Store.setCore]
      by_cases same : ref = replied
      · rw [same, Function.update_self]
        exact SIMDCore.sameDuties_onMemoryReply _ _
      · rw [Function.update_of_ne same]
        exact .refl _
  | readComplete read =>
      refine ⟨.refl _, ?_, ?_, rfl⟩
      all_goals
        simp only [runCallback, Store.setPiccolo]
        by_cases same : ref = read
      · rw [same, Function.update_self]
        exact (PiccoloGatherController.sameBatch_onReadComplete
          _ 0).maxOutstanding
      · rw [Function.update_of_ne same]
      · rw [same, Function.update_self]
        exact fun done => PiccoloGatherController.done_onReadComplete done 0
      · rw [Function.update_of_ne same]
        exact id
  | loadHidden _ => exact ⟨.refl _, rfl, id, rfl⟩
  | host _ => exact ⟨.refl _, rfl, id, rfl⟩

omit [Add F] [Sub F] [Mul F] [Div F] [NatCast F] in
/-- Callbacks issue nothing. -/
theorem toIssue_runCallback
    (store : Store F)
    (callback : Callback)
    (ref : Nat) :
    ((runCallback store callback).piccolos ref).toIssue =
      (store.piccolos ref).toIssue := by
  cases callback with
  | readComplete read =>
      simp only [runCallback, Store.setPiccolo]
      by_cases same : ref = read
      · rw [same, Function.update_self]
        exact PiccoloGatherController.toIssue_onReadComplete _ 0
      · rw [Function.update_of_ne same]
  | loadReply _ => rfl
  | loadHidden _ => rfl
  | host _ => rfl

/-- The turn of an attached core. -/
theorem Steady.tickCore
    (steady : Steady config state)
    {vault : Fin 16}
    {ref : Nat}
    (isAttached : config.attached.vpus vault = some ref) :
    Steady config (state.tickCore config ref) := by
  have keeps := state.keeps_coreResult config ref
  have noGru : (state.coreResult config ref).core.NoGru :=
    SIMDCore.noGru_tick config.ops ref _ (steady.noGru vault ref isAttached)
  have waits : (state.coreResult config ref).core.isWaitingForPiccolo = true ∨
      ((state.store.cores ref).isWaitingForPiccolo = true →
          (state.store.piccolos (state.store.cores ref).piccolo).done =
            true) ∧
        (state.coreResult config ref).piccolo.done =
          (state.store.piccolos (state.store.cores ref).piccolo).done :=
    SIMDCore.waits_or_done_tick config.ops ref _
      (steady.noGru vault ref isAttached)
  constructor
  case noGru =>
    intro other otherRef isOther
    rw [cores_tickCore]
    by_cases same : otherRef = ref
    · rw [same, Function.update_self]
      exact noGru
    · rw [Function.update_of_ne same]
      exact steady.noGru other otherRef isOther
  case router =>
    intro other otherRef isOther
    rw [cores_tickCore]
    by_cases same : otherRef = ref
    · rw [same, Function.update_self, keeps.links.router]
      exact steady.router vault ref isAttached
    · rw [Function.update_of_ne same]
      exact steady.router other otherRef isOther
  case leaves =>
    intro other otherRef isOther controller spare
    rw [cores_tickCore]
    by_cases same : otherRef = ref
    · rw [same, Function.update_self]
      exact ((steady.leaves vault ref isAttached controller spare).tick
        config.ops ref _ _).1
    · rw [Function.update_of_ne same]
      exact steady.leaves other otherRef isOther controller spare
  case solvent =>
    exact fun router isRouter =>
      solvent_tickCore (steady.solvent router isRouter)
  case handedOver =>
    rw [driver_tickCore]
    refine List.forall_mem_append.mpr ⟨steady.handedOver, ?_⟩
    intro event member burst isRequest
    obtain ⟨other, -, rfl⟩ := List.mem_map.mp member
    obtain rfl := Option.some.inj isRequest
    exact if_pos (steady.router vault ref isAttached)
  case issues =>
    intro controller isController
    rw [piccolos_tickCore]
    by_cases own : controller = (state.store.cores ref).piccolo
    · rw [own, Function.update_self, keeps.maxOutstanding, ← own]
      exact steady.issues controller isController
    · rw [Function.update_of_ne own]
      exact steady.issues controller isController
  case gathers =>
    intro controller isController
    rw [cores_tickCore, piccolos_tickCore]
    by_cases nowWaits :
        (state.coreResult config ref).core.isWaitingForPiccolo = true ∧
          (state.store.cores ref).piccolo = controller
    · refine Or.inr ⟨vault, ref, isAttached, ?_⟩
      rw [Function.update_self]
      exact ⟨keeps.links.piccolo.trans nowWaits.2, nowWaits.1⟩
    · have stays : (state.store.piccolos controller).done = true →
          (Function.update state.store.piccolos
            (state.store.cores ref).piccolo
              (state.coreResult config ref).piccolo controller).done =
                true := by
        intro done
        by_cases own : controller = (state.store.cores ref).piccolo
        · subst own
          rw [Function.update_self]
          rcases waits with now | ⟨-, same⟩
          · exact absurd ⟨now, rfl⟩ nowWaits
          · exact same.trans done
        · rw [Function.update_of_ne own]
          exact done
      rcases steady.gathers controller isController with
        done | ⟨other, otherRef, isOther, refers, waited⟩
      · exact Or.inl (stays done)
      · by_cases same : otherRef = ref
        · subst same
          rcases waits with now | ⟨finished, -⟩
          · exact absurd ⟨now, refers⟩ nowWaits
          · rw [refers] at finished
            exact Or.inl (stays (finished waited))
        · refine Or.inr ⟨other, otherRef, isOther, ?_⟩
          rw [Function.update_of_ne same]
          exact ⟨refers, waited⟩

omit [Add F] [Sub F] [Mul F] [Div F] [NatCast F] in
/-- A callback keeps the duties of every core. -/
theorem Steady.completeSlot
    (steady : Steady config state)
    (slot : Nat) :
    Steady config (state.completeSlot slot) := by
  cases found : state.driver.inflight.lookup slot with
  | none =>
      have same : state.completeSlot slot = state := by
        simp only [RunState.completeSlot_eq, Driver.complete_eq, found]
      rw [same]
      exact steady
  | some request =>
      have silent : ∀ event ∈ completionEvents slot request.burst,
          ∀ burst, event.requested = some burst →
            event.handedOver config.attached.router = some burst := by
        intro event member burst isRequest
        rcases List.mem_cons.mp member with rfl | ran
        · exact absurd isRequest.symm (Option.some_ne_none burst)
        · obtain ⟨callback, -, rfl⟩ := Option.map_eq_some_iff.mp
            (Option.mem_toList.mp ran)
          exact absurd isRequest.symm (Option.some_ne_none burst)
      have callback := runCallback_keeps state.store
      refine steady.of_sameDuties ?_ ?_ ?_ ?_
        (completeSlot_history found) silent
      all_goals
        intro ref
        rw [RunState.completeSlot_eq]
        simp only
        split
      · exact .refl _
      · exact (callback _ ref).1
      · rfl
      · exact (callback _ ref).2.1
      · exact id
      · exact (callback _ ref).2.2.1
      · exact id
      · rw [(callback _ ref).2.2.2]
        exact id

/-! ## The turns that spend work -/

omit [Zero F] [One F] [Add F] [Sub F] [Mul F] [Div F] [NatCast F] in
/-- Bursts queued on their ports are pending. -/
theorem card_pendingBursts_enqueueAll
    (driver : Driver M)
    (via : Option Nat)
    (bursts : List MemoryBurst) :
    (driver.enqueueAll via bursts).mux.pendingBursts.card =
      driver.mux.pendingBursts.card + bursts.length := by
  unfold Driver.enqueueAll
  induction bursts generalizing driver with
  | nil => rfl
  | cons burst rest inductionHypothesis =>
      rw [List.foldl_cons, inductionHypothesis, Driver.enqueue,
        PseudoChannelMultiplexer.pendingBursts_enqueue, Multiset.card_add,
        Multiset.card_singleton, List.length_cons]
      omega

omit [Zero F] [One F] [Add F] [Sub F] [Mul F] [Div F] [NatCast F] in
/-- The controller's turn: a read is pending once it is issued. -/
theorem descends_issue
    {ref : Nat}
    (isAttached : config.attached.piccolo = some ref) :
    Descends config state
      { state with
        store := state.store.setPiccolo ref
          ((state.store.piccolos ref).tickIssue ref).1
        driver := state.driver.enqueueAll none
          ((state.store.piccolos ref).tickIssue ref).2.toList } := by
  rcases (state.store.piccolos ref).tickIssue_cases ref with
    ⟨-, nothing⟩ | ⟨-, fewer, burst, read⟩
  · rw [nothing]
    exact descends_of_same rfl (Function.update_eq_self _ _) rfl rfl rfl
  · refine .lower ?_
    have pending := card_pendingBursts_enqueueAll state.driver none [burst]
    have keeps := state.driver.enqueueAll_keeps none [burst]
    rw [List.length_singleton] at pending
    simp only [potential, coreWork, readsToIssue, burstsWaiting, isAttached,
      Option.elim_some, Store.setPiccolo, Function.update_self, read,
      Option.toList_some, pending, keeps.1]
    omega

omit [Zero F] [One F] [Add F] [Sub F] [Mul F] [Div F] [NatCast F] in
/-- The router's turn: a burst is pending once it is delivered. -/
theorem descends_deliver
    {ref : Nat}
    (isAttached : config.attached.router = some ref)
    (solvent : (state.store.routers ref).Solvent) :
    Descends config state
      { state with
        store := state.store.setRouter ref (state.store.routers ref).tick.1
        driver := state.driver.enqueueAll (some ref)
          (state.store.routers ref).tick.2 } := by
  by_cases nothing : (state.store.routers ref).tick.2 = []
  · apply Idles.descends
    rw [nothing]
    refine ⟨rfl, rfl, rfl, rfl, fun other isOther => ?_⟩
    obtain rfl := Option.some.inj (isAttached.symm.trans isOther)
    simp only [Store.setRouter, Function.update_self]
    exact solvent.saves_tick nothing
  · refine .lower ?_
    have split := congrArg Multiset.card (state.store.routers ref).waiting_tick
    have some := List.length_pos_iff.mpr nothing
    rw [Multiset.card_add, Multiset.coe_card, Multiset.coe_card,
      Multiset.coe_card] at split
    have pending := card_pendingBursts_enqueueAll state.driver
      (Option.some ref) (state.store.routers ref).tick.2
    have keeps := state.driver.enqueueAll_keeps (Option.some ref)
      (state.store.routers ref).tick.2
    simp only [potential, coreWork, readsToIssue, burstsWaiting, isAttached,
      Option.elim_some, Store.setRouter, Function.update_self, pending,
      keeps.1]
    omega

/-- The work of the cores goes down by what one of them spends. -/
theorem coreWork_tickCore
    {vault : Fin 16}
    {ref spent : Nat}
    (isAttached : config.attached.vpus vault = some ref)
    (spends : (state.coreResult config ref).core.work + spent ≤
      (state.store.cores ref).work) :
    (state.tickCore config ref).coreWork config + spent ≤
      state.coreWork config := by
  unfold coreWork
  rw [cores_tickCore, ← Finset.add_sum_erase _ _ (Finset.mem_univ vault),
    ← Finset.add_sum_erase Finset.univ _ (Finset.mem_univ vault)]
  have others : ∑ other ∈ Finset.univ.erase vault,
        (config.attached.vpus other).elim 0 (fun otherRef =>
          (Function.update state.store.cores ref
            (state.coreResult config ref).core otherRef).work) ≤
      ∑ other ∈ Finset.univ.erase vault,
        (config.attached.vpus other).elim 0 (fun otherRef =>
          (state.store.cores otherRef).work) := by
    refine Finset.sum_le_sum fun other _ => ?_
    cases config.attached.vpus other with
    | none => exact le_rfl
    | some otherRef =>
        simp only [Option.elim_some]
        by_cases same : otherRef = ref
        · rw [same, Function.update_self]
          omega
        · rw [Function.update_of_ne same]
  simp only [isAttached, Option.elim_some, Function.update_self] at others ⊢
  omega

theorem readsToIssue_tickCore (ref : Nat) :
    (state.tickCore config ref).readsToIssue config ≤
      state.readsToIssue config +
        ((state.coreResult config ref).piccolo.toIssue -
          (state.store.piccolos (state.store.cores ref).piccolo).toIssue) := by
  unfold readsToIssue
  rw [piccolos_tickCore]
  cases config.attached.piccolo with
  | none => exact Nat.zero_le _
  | some controller =>
      simp only [Option.elim_some]
      by_cases own : controller = (state.store.cores ref).piccolo
      · rw [own, Function.update_self]
        omega
      · rw [Function.update_of_ne own]
        omega

theorem burstsWaiting_tickCore (ref : Nat) :
    (state.tickCore config ref).burstsWaiting config ≤
      state.burstsWaiting config +
        (state.coreResult config ref).request.toList.length := by
  unfold burstsWaiting
  rw [routers_tickCore]
  cases config.attached.router with
  | none => exact Nat.zero_le _
  | some router =>
      simp only [Option.elim_some]
      by_cases own : router = (state.store.cores ref).router
      · have counts := congrArg Multiset.card
          (HierarchicalRouter.waiting_foldl_enqueueRequest
            (state.coreResult config ref).request.toList
              (state.store.routers router))
        rw [Multiset.card_add, Multiset.coe_card, Multiset.coe_card,
          Multiset.coe_card] at counts
        rw [own, Function.update_self, ← own]
        exact counts.le
      · rw [Function.update_of_ne own]
        omega

/-- The turn of an attached core that acts. -/
theorem potential_tickCore_lt
    {vault : Fin 16}
    {ref : Nat}
    (isAttached : config.attached.vpus vault = some ref)
    (noGru : (state.store.cores ref).NoGru)
    (acts : (state.store.cores ref).Acts
      (state.store.piccolos (state.store.cores ref).piccolo)) :
    (state.tickCore config ref).potential config < state.potential config := by
  have spends : SIMDCore.Spends (state.store.cores ref)
      (state.store.piccolos (state.store.cores ref).piccolo)
        (state.coreResult config ref) :=
    SIMDCore.spends_tick config.ops ref _ noGru acts
  unfold SIMDCore.Spends at spends
  have reads : (state.tickCore config ref).readsToIssue config ≤ _ :=
    readsToIssue_tickCore ref
  have waiting : (state.tickCore config ref).burstsWaiting config ≤ _ :=
    burstsWaiting_tickCore ref
  have cores : (state.tickCore config ref).coreWork config +
      (3 * (state.coreResult config ref).request.toList.length +
        3 * ((state.coreResult config ref).piccolo.toIssue -
          (state.store.piccolos (state.store.cores ref).piccolo).toIssue) +
            1) ≤ state.coreWork config :=
    coreWork_tickCore isAttached (by omega)
  have driver : (state.tickCore config ref).driver.mux = state.driver.mux ∧
      (state.tickCore config ref).driver.inflight = state.driver.inflight :=
    ⟨rfl, rfl⟩
  unfold potential
  rw [driver.1, driver.2]
  omega

theorem descends_tickCore
    {vault : Fin 16}
    {ref : Nat}
    (isAttached : config.attached.vpus vault = some ref)
    (noGru : (state.store.cores ref).NoGru) :
    Descends config state (state.tickCore config ref) := by
  by_cases acts : (state.store.cores ref).Acts
      (state.store.piccolos (state.store.cores ref).piccolo)
  · exact .lower (potential_tickCore_lt isAttached noGru acts)
  · have rests : SIMDCore.Rests (state.store.cores ref)
        (state.store.piccolos (state.store.cores ref).piccolo)
          (state.coreResult config ref) :=
      SIMDCore.rests_tick config.ops ref _ noGru acts
    refine descends_of_same ?_ ?_ ?_ rfl rfl
    · rw [cores_tickCore, rests.core, Function.update_eq_self]
    · rw [piccolos_tickCore, rests.piccolo, Function.update_eq_self]
    · rw [routers_tickCore, rests.request, Option.toList_none, List.foldl_nil,
        Function.update_eq_self]

omit [Add F] [Sub F] [Mul F] [Div F] [NatCast F] in
/-- A completed read is no longer in flight. -/
theorem descends_completeSlot (slot : Nat) :
    Descends config state (state.completeSlot slot) := by
  cases found : state.driver.inflight.lookup slot with
  | none =>
      have same : state.completeSlot slot = state := by
        simp only [completeSlot_eq, Driver.complete_eq, found]
      rw [same]
      exact (Idles.refl state).descends
  | some request =>
      refine .lower ?_
      obtain ⟨before, after, split, erased⟩ :=
        Driver.Accounts.lookup_split found
      have fewer : (state.completeSlot slot).driver.inflight.length + 1 =
          state.driver.inflight.length := by
        rw [completeSlot_driver, Driver.complete_inflight found, erased, split]
        simp only [List.length_append, List.length_cons]
        omega
      have mux : (state.completeSlot slot).driver.mux = state.driver.mux := by
        rw [completeSlot_driver, Driver.complete_mux]
      have cores : (state.completeSlot slot).coreWork config =
          state.coreWork config := by
        unfold coreWork
        rw [completeSlot_eq]
        simp only
        split
        · rfl
        · refine Finset.sum_congr rfl fun vault _ => ?_
          cases config.attached.vpus vault with
          | none => rfl
          | some ref => exact (runCallback_keeps state.store _ ref).1.work
      have reads : (state.completeSlot slot).readsToIssue config =
          state.readsToIssue config := by
        unfold readsToIssue
        rw [completeSlot_eq]
        simp only
        cases config.attached.piccolo with
        | none => rfl
        | some ref =>
            simp only [Option.elim_some]
            split
            · rfl
            · exact toIssue_runCallback state.store _ ref
      have waiting : (state.completeSlot slot).burstsWaiting config =
          state.burstsWaiting config := by
        unfold burstsWaiting
        rw [completeSlot_eq]
        simp only
        split
        · rfl
        · rw [(runCallback_keeps state.store _ 0).2.2.2]
      unfold potential
      rw [cores, reads, waiting, mux]
      omega

variable (coresOnly : CoresOnly config)
include coresOnly

/-- Every turn keeps a run steady. -/
theorem Steady.turn
    (steady : Steady config state)
    {after : RunState F M}
    (turn : Turn config state after) :
    Steady config after := by
  have unchanged : state.driver.history = state.driver.history ++ [] :=
    (List.append_nil _).symm
  have silent : ∀ event ∈ ([] : List Event), ∀ burst,
      event.requested = some burst →
        event.handedOver config.attached.router = some burst :=
    fun _ member => absurd member List.not_mem_nil
  cases turn with
  | issue ref _ =>
      refine steady.of_sameDuties (fun _ => .refl _) ?_ ?_ (fun _ => id)
        (Driver.history_enqueueAll _ _ _) ?_
      · intro other
        simp only [Store.setPiccolo]
        by_cases here : other = ref
        · rw [here, Function.update_self]
          exact (PiccoloGatherController.sameBatch_tickIssue
            _ ref).maxOutstanding
        · rw [Function.update_of_ne here]
      · intro other
        simp only [Store.setPiccolo]
        by_cases here : other = ref
        · rw [here, Function.update_self,
            PiccoloGatherController.done_tickIssue]
          exact id
        · rw [Function.update_of_ne here]
          exact id
      · intro event member burst isRequest
        obtain ⟨other, -, rfl⟩ := List.mem_map.mp member
        exact isRequest
  | deliver ref _ =>
      refine steady.of_sameDuties (fun _ => .refl _) (fun _ => rfl)
        (fun _ => id) ?_ (Driver.history_enqueueAll _ _ _) ?_
      · intro other solvent
        simp only [Store.setRouter]
        by_cases here : other = ref
        · subst here
          rw [Function.update_self]
          exact solvent.tick
        · rw [Function.update_of_ne here]
          exact solvent
      · intro event member burst isRequest
        obtain ⟨other, -, rfl⟩ := List.mem_map.mp member
        exact absurd isRequest.symm (Option.some_ne_none burst)
  | core vault ref isAttached => exact steady.tickCore isAttached
  | hardware store same =>
      refine steady.of_sameDuties ?_ ?_ ?_ ?_ unchanged silent
      · intro ref
        rw [same.cores]
        exact .refl _
      · intro ref
        rw [same.piccolos]
      · intro ref
        rw [same.piccolos]
        exact id
      · intro ref
        rw [same.routers]
        exact id
  | program ref inputs isAttached =>
      exact absurd (isAttached.symm.trans coresOnly.noProgram)
        (Option.some_ne_none ref)
  | logic router producer burst _ present _ =>
      rcases present with psau | program
      · exact absurd coresOnly.noPsau psau
      · exact absurd coresOnly.noProgram program
  | locals _ _ _ _ =>
      exact steady.of_sameDuties (fun _ => .refl _) (fun _ => rfl)
        (fun _ => id) (fun _ => id) unchanged silent
  | @admission pcId burst rest used memory _ _ _ _ =>
      have history : (state.driver.acceptRead pcId burst memory).history =
          state.driver.history ++
            [.admitted pcId state.driver.nextSlot burst] := rfl
      refine steady.of_sameDuties (fun _ => .refl _) (fun _ => rfl)
        (fun _ => id) (fun _ => id) history ?_
      intro event member other isRequest
      rw [List.mem_singleton.mp member] at isRequest
      exact absurd isRequest.symm (Option.some_ne_none other)
  | memory _ =>
      exact steady.of_sameDuties (fun _ => .refl _) (fun _ => rfl)
        (fun _ => id) (fun _ => id) unchanged silent
  | complete slot => exact steady.completeSlot slot

/-- Every turn spends work, or nothing happens. -/
theorem descends_turn
    (steady : Steady config state)
    {after : RunState F M}
    (turn : Turn config state after) :
    Descends config state after := by
  cases turn with
  | issue ref isAttached => exact descends_issue isAttached
  | deliver ref isAttached =>
      exact descends_deliver isAttached (steady.solvent ref isAttached)
  | core vault ref isAttached =>
      exact descends_tickCore isAttached (steady.noGru vault ref isAttached)
  | hardware store same =>
      exact descends_of_same same.cores same.piccolos same.routers rfl rfl
  | program ref inputs isAttached =>
      exact absurd (isAttached.symm.trans coresOnly.noProgram)
        (Option.some_ne_none ref)
  | logic router producer burst _ present _ =>
      rcases present with psau | program
      · exact absurd coresOnly.noPsau psau
      · exact absurd coresOnly.noProgram program
  | locals _ _ _ _ => exact descends_of_same rfl rfl rfl rfl rfl
  | @admission pcId burst rest used memory front _ _ _ =>
      refine .lower ?_
      have taken := congrArg Multiset.card
        (Driver.pendingBursts_acceptRead front memory)
      rw [Multiset.card_cons] at taken
      have added : (state.driver.acceptRead pcId burst
          memory).inflight.length = state.driver.inflight.length + 1 :=
        List.length_append
      unfold potential
      simp only [coreWork, readsToIssue, burstsWaiting]
      omega
  | memory _ => exact descends_of_same rfl rfl rfl rfl rfl
  | complete slot => exact descends_completeSlot slot

/-- So do any number of turns. -/
theorem Steady.turns
    (steady : Steady config state)
    {after : RunState F M}
    (turns : Turns config state after) :
    Steady config after ∧ Descends config state after := by
  refine turns.keeps (fun reached => Steady config reached ∧
    Descends config state reached) ?_ ⟨steady, (Idles.refl state).descends⟩
  rintro before after turn ⟨stillSteady, descends⟩
  exact ⟨stillSteady.turn coresOnly turn,
    descends.trans Idles.trans (descends_turn coresOnly stillSteady turn)⟩

/-- No turn changes the rates of a router. -/
theorem sameRates_turn
    {after : RunState F M}
    (turn : Turn config state after)
    (ref : Nat) :
    (state.store.routers ref).SameRates (after.store.routers ref) := by
  cases turn with
  | issue _ _ => exact .refl _
  | deliver router _ =>
      simp only [Store.setRouter]
      by_cases here : ref = router
      · rw [here, Function.update_self]
        exact ⟨rfl, rfl⟩
      · rw [Function.update_of_ne here]
        exact .refl _
  | core vault core _ =>
      rw [routers_tickCore]
      by_cases own : ref = (state.store.cores core).router
      · rw [own, Function.update_self]
        refine List.foldlRecOn (motive :=
          (state.store.routers (state.store.cores core).router).SameRates)
            _ _ (.refl _) ?_
        exact fun reached before burst _ => before.trans
          (reached.sameRates_enqueueRequest burst)
      · rw [Function.update_of_ne own]
        exact .refl _
  | hardware store same =>
      rw [same.routers]
      exact .refl _
  | program ref inputs isAttached =>
      exact absurd (isAttached.symm.trans coresOnly.noProgram)
        (Option.some_ne_none ref)
  | logic router producer burst _ present _ =>
      rcases present with psau | program
      · exact absurd coresOnly.noPsau psau
      · exact absurd coresOnly.noProgram program
  | locals _ _ _ _ => exact .refl _
  | admission _ _ _ _ => exact .refl _
  | memory _ => exact .refl _
  | complete slot =>
      have same : (state.completeSlot slot).store.routers =
          state.store.routers := by
        rw [completeSlot_eq]
        simp only
        split
        · rfl
        · exact (runCallback_keeps state.store _ 0).2.2.2
      rw [same]
      exact .refl _

theorem sameRates_turns
    {after : RunState F M}
    (turns : Turns config state after)
    (ref : Nat) :
    (state.store.routers ref).SameRates (after.store.routers ref) :=
  turns.keeps (fun reached => (state.store.routers ref).SameRates
      (reached.store.routers ref))
    (fun _ _ turn before => before.trans (sameRates_turn coresOnly turn ref))
    (.refl _)

end Turn

end RunState

end PimGraphs
