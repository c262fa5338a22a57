import PimGraphs.Compute.VaultFrame
import PimGraphs.Simulator.Delivery

/-!
# A vault nobody else refers to

A core, an array and a feeder that no other component refers to change only
in the turn of their own vault, as long as no reply to the core is under way.
The other components keep this situation up.
-/

namespace PimGraphs

/-! ## Replies under way -/

/-- The completion of the burst is no reply to the core. -/
def MemoryBurst.Spares (core : Nat) (burst : MemoryBurst) : Prop :=
  burst.onComplete ≠ some (.loadReply core)

/-- No reply to the core is under way. -/
structure Quiet {M : Type} (core : Nat) (traffic : Traffic M) : Prop where
  routers : ∀ ref, ∀ burst ∈ (traffic.1 ref).waiting, burst.Spares core
  ports : ∀ pcId, ∀ burst ∈ (traffic.2.mux.port pcId).pending,
    burst.Spares core
  inflight : ∀ entry ∈ traffic.2.inflight, entry.2.burst.Spares core

namespace Quiet

variable {M : Type} {core : Nat} {routers : Nat → HierarchicalRouter}
variable {driver : Driver M}

theorem enqueue
    (quiet : Quiet core (routers, driver))
    (via : Option Nat)
    {burst : MemoryBurst}
    (spares : burst.Spares core) :
    Quiet core (routers, driver.enqueue via burst) := by
  refine ⟨quiet.routers, ?_, quiet.inflight⟩
  intro pcId other pending
  simp only [Driver.enqueue, PseudoChannelMultiplexer.enqueue,
    PseudoChannelMultiplexer.port_setPort] at pending
  split at pending
  case isTrue same =>
    rw [PseudoChannelPort.pending_enqueue] at pending
    rcases List.mem_append.mp pending with before | new
    · exact quiet.ports burst.pcId other before
    · rw [List.mem_singleton.mp new]
      exact spares
  case isFalse => exact quiet.ports pcId other pending

theorem enqueueAll
    (quiet : Quiet core (routers, driver))
    (via : Option Nat)
    {bursts : List MemoryBurst}
    (spare : ∀ burst ∈ bursts, burst.Spares core) :
    Quiet core (routers, driver.enqueueAll via bursts) := by
  unfold Driver.enqueueAll
  refine List.foldlRecOn
    (motive := fun driver : Driver M => Quiet core (routers, driver))
    _ _ quiet ?_
  intro driver quiet burst member
  exact quiet.enqueue via (spare burst member)

theorem route
    (quiet : Quiet core (routers, driver))
    (ref : Nat)
    (producer : Producer)
    {bursts : List MemoryBurst}
    (spare : ∀ burst ∈ bursts, burst.Spares core) :
    Quiet core
      (Function.update routers ref
        (bursts.foldl HierarchicalRouter.enqueueRequest (routers ref)),
        driver.recordRouted ref producer bursts) := by
  refine ⟨?_, quiet.ports, quiet.inflight⟩
  intro other burst waiting
  simp only at waiting
  by_cases same : other = ref
  · subst same
    rw [Function.update_self, ← Multiset.mem_coe,
      HierarchicalRouter.waiting_foldl_enqueueRequest] at waiting
    rcases Multiset.mem_add.mp waiting with before | new
    · exact quiet.routers other burst before
    · exact spare burst new
  · rw [Function.update_of_ne same] at waiting
    exact quiet.routers other burst waiting

theorem deliver
    (quiet : Quiet core (routers, driver))
    (ref : Nat) :
    Quiet core
      (Function.update routers ref (routers ref).tick.1,
        driver.enqueueAll (some ref) (routers ref).tick.2) := by
  have split := (routers ref).waiting_tick
  have sent : ∀ burst ∈ (routers ref).tick.2, burst.Spares core := by
    intro burst member
    refine quiet.routers ref burst (Multiset.mem_coe.mp ?_)
    rw [split]
    exact Multiset.mem_add.mpr (Or.inl member)
  have ports := quiet.enqueueAll (some ref) sent
  refine ⟨?_, ports.ports, ports.inflight⟩
  intro other burst waiting
  simp only at waiting
  by_cases same : other = ref
  · subst same
    rw [Function.update_self] at waiting
    refine quiet.routers other burst (Multiset.mem_coe.mp ?_)
    rw [split]
    exact Multiset.mem_add.mpr (Or.inr waiting)
  · rw [Function.update_of_ne same] at waiting
    exact quiet.routers other burst waiting

theorem acceptRead
    (quiet : Quiet core (routers, driver))
    {pcId : PcId}
    {burst : MemoryBurst}
    {rest : List MemoryBurst}
    (front : (driver.mux.port pcId).pending = burst :: rest)
    (memory : M) :
    Quiet core (routers, driver.acceptRead pcId burst memory) := by
  refine ⟨quiet.routers, ?_, ?_⟩
  · intro other pending member
    simp only [Driver.acceptRead,
      PseudoChannelMultiplexer.port_advanceAfterIssue,
      PseudoChannelMultiplexer.port_setPort] at member
    split at member
    case isTrue same =>
      rw [PseudoChannelPort.pending_pop] at member
      exact quiet.ports pcId pending (List.mem_of_mem_tail member)
    case isFalse => exact quiet.ports other pending member
  · intro entry member
    rcases List.mem_append.mp member with before | new
    · exact quiet.inflight entry before
    · rw [List.mem_singleton.mp new]
      apply quiet.ports pcId burst
      rw [front]
      exact List.mem_cons_self

theorem runAdmission
    (config : AdmissionConfig M)
    (quiet : Quiet core (routers, driver)) :
    Quiet core (routers, (driver.admissionLoop config).driver) := by
  have keeps : WaveLoop.KeptByAdmission config
      fun driver : Driver M => Quiet core (routers, driver) :=
    fun _ _ _ _ memory quiet front _ _ => quiet.acceptRead front memory
  exact WaveLoop.kept_admissionLoop keeps quiet

/-- A completed read was in flight, so it runs no reply to the core. -/
theorem complete
    (quiet : Quiet core (routers, driver))
    (slot : Nat) :
    Quiet core (routers, (driver.complete slot).1) ∧
      (driver.complete slot).2 ≠ some (.loadReply core) := by
  cases found : driver.inflight.lookup slot with
  | none =>
      simp only [Driver.complete_eq, found]
      exact ⟨quiet, (Option.some_ne_none _).symm⟩
  | some request =>
      refine ⟨⟨quiet.routers, ?_, ?_⟩, ?_⟩
      · simp only [Driver.complete_mux]
        exact quiet.ports
      · intro entry member
        rw [Driver.complete_inflight found] at member
        exact quiet.inflight entry (List.mem_of_mem_eraseP member)
      · obtain ⟨before, after, split, -⟩ :=
          Driver.Accounts.lookup_split found
        have member : (slot, request) ∈ driver.inflight := by
          rw [split]
          exact List.mem_append_right _ List.mem_cons_self
        rw [Driver.complete_callback found]
        exact quiet.inflight _ member

end Quiet

/-! ## The vault -/

/-- The references to a core, an array and a feeder, and the vault they are
attached to. -/
structure Place where
  vault : Fin 16
  core : Nat
  array : Nat
  feeder : Nat

/-- What the references of a place refer to. -/
def Place.hardware {F : Type} (place : Place) (store : Store F) :
    SIMDCore F × SystolicArray F × ArrayFeeder F :=
  (store.cores place.core, store.arrays place.array,
    store.feeders place.feeder)

theorem Store.SameVault.hardware_eq
    {F : Type}
    {place : Place}
    {before after : Store F}
    (same : before.SameVault place.array place.feeder after) :
    place.hardware after = place.hardware before := by
  unfold Place.hardware
  rw [same.cores, same.array, same.feeder]

/-- A core, its array and its feeder are attached to one vault and to no
other. -/
structure Attached.Owns (attached : Attached) (place : Place) : Prop where
  core : attached.vpus place.vault = some place.core
  feeder : attached.feeders place.vault = some place.feeder
  array : attached.systolicArrays place.vault = some place.array
  coreOnce : ∀ vault, attached.vpus vault = some place.core →
    vault = place.vault
  feederOnce : ∀ vault, attached.feeders vault = some place.feeder →
    vault = place.vault
  arrayOnce : ∀ vault, attached.systolicArrays vault = some place.array →
    vault = place.vault

namespace RunState

variable {F M : Type}

/-- Nobody else refers to the array or the feeder, a vertex program that does
nothing excepted, and no reply to the core is under way. -/
structure Isolated
    (config : RunConfig F M)
    (place : Place)
    (state : RunState F M) : Prop where
  cores : ∀ vault ref, config.attached.vpus vault = some ref →
    ref ≠ place.core →
      (state.store.cores ref).Avoids place.array place.feeder
  program : ∀ ref, config.attached.vertexProgram = some ref →
    (state.store.programs ref).Spares place.array place.feeder
  quiet : Quiet place.core state.traffic

/-- A step of somebody else. -/
structure LeavesAlone
    (config : RunConfig F M)
    (place : Place)
    (before after : RunState F M) : Prop where
  isolated : after.Isolated config place
  hardware : place.hardware after.store = place.hardware before.store

namespace LeavesAlone

variable {config : RunConfig F M} {place : Place}
variable {before middle after : RunState F M}

theorem refl (isolated : before.Isolated config place) :
    LeavesAlone config place before before :=
  ⟨isolated, rfl⟩

theorem trans
    (first : LeavesAlone config place before middle)
    (second : LeavesAlone config place middle after) :
    LeavesAlone config place before after :=
  ⟨second.isolated, second.hardware.trans first.hardware⟩

theorem of_sameVault
    (isolated : before.Isolated config place)
    (same : before.store.SameVault place.array place.feeder after.store)
    (quiet : Quiet place.core after.traffic) :
    LeavesAlone config place before after := by
  refine ⟨⟨?_, ?_, quiet⟩, same.hardware_eq⟩
  · rw [same.cores]
    exact isolated.cores
  · rw [same.programs]
    exact isolated.program

end LeavesAlone

section Steps

variable {config : RunConfig F M} {place : Place} {state : RunState F M}
  (isolated : state.Isolated config place)
include isolated

theorem leavesAlone_issuePiccolo :
    LeavesAlone config place state (state.issuePiccolo config) := by
  unfold issuePiccolo
  cases config.attached.piccolo with
  | none => exact .refl isolated
  | some ref =>
      simp only
      split
      · exact .refl isolated
      · refine .of_sameVault isolated ⟨rfl, rfl, rfl, rfl⟩
          (isolated.quiet.enqueueAll none ?_)
        intro burst isRead
        unfold PiccoloGatherController.tickIssue at isRead
        split at isRead
        · obtain rfl := List.mem_singleton.mp isRead
          simp [MemoryBurst.Spares, PiccoloGatherController.elementRead]
        · exact absurd isRead List.not_mem_nil

theorem leavesAlone_tickRouter :
    LeavesAlone config place state (state.tickRouter config) := by
  unfold tickRouter
  cases config.attached.router with
  | none => exact .refl isolated
  | some ref =>
      exact .of_sameVault isolated ⟨rfl, rfl, rfl, rfl⟩
        (isolated.quiet.deliver ref)

/-- Routing bursts that are no replies to the core. -/
theorem leavesAlone_route
    (router : Nat)
    (producer : Producer)
    {bursts : List MemoryBurst}
    (spare : ∀ burst ∈ bursts, burst.Spares place.core) :
    LeavesAlone config place state (state.route router producer bursts) :=
  .of_sameVault isolated ⟨rfl, rfl, rfl, rfl⟩
    (isolated.quiet.route router producer spare)

theorem leavesAlone_requestHidden (ref : Nat) :
    LeavesAlone config place state (state.requestHidden config ref) := by
  unfold requestHidden
  cases config.attached.router with
  | none => exact .refl isolated
  | some router =>
      simp only
      split
      · have routed : LeavesAlone config place state
            (state.route router .hiddenLoad
              [hiddenLoad ref
                (state.store.programs ref).cfg.hiddenStateAddr]) :=
          leavesAlone_route isolated router _
            (by simp [MemoryBurst.Spares, hiddenLoad])
        exact ⟨⟨routed.isolated.cores, routed.isolated.program,
          routed.isolated.quiet⟩, routed.hardware⟩
      · exact .refl isolated

theorem leavesAlone_writebackVertex (ref : Nat) :
    LeavesAlone config place state (state.writebackVertex config ref) := by
  unfold writebackVertex
  cases config.attached.router with
  | none => exact .refl isolated
  | some router =>
      simp only
      split
      · have routed : LeavesAlone config place state
            (state.route router .vertexWriteback
              [vertexWriteback
                (state.store.programs ref).cfg.outputAddr]) :=
          leavesAlone_route isolated router _
            (by simp [MemoryBurst.Spares, vertexWriteback])
        exact ⟨⟨routed.isolated.cores, routed.isolated.program,
          routed.isolated.quiet⟩, routed.hardware⟩
      · exact .refl isolated

theorem leavesAlone_recordStats (ref : Nat) :
    LeavesAlone config place state (state.recordStats ref) := by
  unfold recordStats
  split
  · exact .of_sameVault isolated (.refl _) isolated.quiet
  · exact .refl isolated

theorem leavesAlone_tickPsau
    [Add F]
    (inputs : TreeInputs F) :
    LeavesAlone config place state (state.tickPsau config inputs) := by
  unfold tickPsau
  cases config.attached.psau with
  | none => exact .refl isolated
  | some ref =>
      simp only
      generalize (state.store.psaus ref).tick inputs.vectors inputs.valid =
        ticked
      have stored : LeavesAlone config place state
          { state with store := state.store.setPsau ref ticked.2.2 } :=
        .of_sameVault isolated ⟨rfl, rfl, rfl, rfl⟩ isolated.quiet
      split
      · exact stored.trans (leavesAlone_route stored.isolated _ _
          (by simp [MemoryBurst.Spares, psauWriteback]))
      · exact stored

theorem leavesAlone_runAdmission :
    LeavesAlone config place state (state.runAdmission config) :=
  .of_sameVault isolated (.refl _) (isolated.quiet.runAdmission _)

omit isolated in
/-- Callbacks do not rewire the cores. -/
theorem keepsWiring_runCallback
    [Zero F]
    [One F]
    (store : Store F)
    (callback : Callback)
    (ref : Nat) :
    (store.cores ref).KeepsWiring ((runCallback store callback).cores ref) := by
  cases callback with
  | loadReply replied =>
      simp only [runCallback, Store.setCore]
      by_cases same : ref = replied
      · subst same
        rw [Function.update_self]
        exact SIMDCore.keepsWiring_onMemoryReply _ _
      · rw [Function.update_of_ne same]
        exact .refl _
  | readComplete _ => exact .refl _
  | loadHidden _ => exact .refl _
  | host _ => exact .refl _

omit isolated in
/-- A hidden state does not wake a program up. -/
theorem spares_runCallback
    [Zero F]
    [One F]
    {store : Store F}
    (callback : Callback)
    {ref : Nat}
    (spares : (store.programs ref).Spares place.array place.feeder) :
    ((runCallback store callback).programs ref).Spares place.array
      place.feeder := by
  cases callback with
  | loadHidden loaded =>
      simp only [runCallback, Store.setProgram]
      by_cases same : ref = loaded
      · subst same
        rw [Function.update_self]
        exact spares.imp_left fun avoids => ⟨avoids.arrays, avoids.feeders⟩
      · rw [Function.update_of_ne same]
        exact spares
  | readComplete _ => exact spares
  | loadReply _ => exact spares
  | host _ => exact spares

omit isolated in
theorem hardware_runCallback
    [Zero F]
    [One F]
    (store : Store F)
    {callback : Callback}
    (noReply : callback ≠ .loadReply place.core) :
    place.hardware (runCallback store callback) = place.hardware store := by
  cases callback with
  | loadReply ref =>
      have differs : place.core ≠ ref := fun same =>
        noReply (congrArg Callback.loadReply same.symm)
      simp only [Place.hardware, runCallback, Store.setCore,
        Function.update_of_ne differs]
  | readComplete _ => rfl
  | loadHidden _ => rfl
  | host _ => rfl

/-- The callback of a read that is no reply to the core. -/
theorem leavesAlone_completeSlot
    [Zero F]
    [One F]
    (slot : Nat) :
    LeavesAlone config place state (state.completeSlot slot) := by
  obtain ⟨quiet, noReply⟩ := isolated.quiet.complete slot
  have traffic : (state.completeSlot slot).traffic =
      (state.store.routers, (state.driver.complete slot).1) := by
    rw [RunState.traffic, routers_completeSlot, completeSlot_driver]
  rw [← traffic] at quiet
  cases ran : (state.driver.complete slot).2 with
  | none =>
      refine .of_sameVault isolated ?_ quiet
      simp only [completeSlot_eq, ran]
      exact .refl _
  | some callback =>
      have stored : (state.completeSlot slot).store =
          runCallback state.store callback := by
        simp only [completeSlot_eq, ran]
      rw [ran, ne_eq, Option.some_inj] at noReply
      refine ⟨⟨?_, ?_, quiet⟩, ?_⟩
      · intro vault ref isAttached notOwn
        rw [stored]
        exact (keepsWiring_runCallback _ callback ref).avoids
          (isolated.cores vault ref isAttached notOwn)
      · intro ref isAttached
        rw [stored]
        exact spares_runCallback callback (isolated.program ref isAttached)
      · rw [stored]
        exact hardware_runCallback _ noReply

theorem leavesAlone_tickMemory
    [Zero F]
    [One F] :
    LeavesAlone config place state (state.tickMemory config) := by
  unfold tickMemory
  generalize config.admission.ramulator.tick state.driver.memory = ticked
  have moved : LeavesAlone config place state
      { state with driver := { state.driver with memory := ticked.1 } } :=
    .of_sameVault isolated (.refl _)
      ⟨isolated.quiet.routers, isolated.quiet.ports,
        isolated.quiet.inflight⟩
  refine List.foldlRecOn (motive := LeavesAlone config place state) _ _
    moved ?_
  intro reached alone slot _
  exact alone.trans (leavesAlone_completeSlot alone.isolated slot)

section Cycle

variable [Zero F] [One F] [Add F] [Sub F] [Mul F] [Div F] [NatCast F]

theorem leavesAlone_advanceProgram
    {ref : Nat}
    (isAttached : config.attached.vertexProgram = some ref)
    (inputs : TreeInputs F) :
    LeavesAlone config place state
      (state.advanceProgram config ref inputs) := by
  have ticked := TGNVertexProgram.tickSpares_tick config.ops state.store
    (isolated.program ref isAttached) inputs.vectors
  have routers := TGNVertexProgram.routers_tick config.ops
    (state.store.programs ref) state.store inputs.vectors
  unfold advanceProgram
  generalize (state.store.programs ref).tick config.ops state.store
    inputs.vectors = after at ticked routers ⊢
  obtain ⟨program, store, reads⟩ := after
  obtain ⟨stillSpares, same, spared⟩ := ticked
  have quiet : Quiet place.core
      (store.routers, state.driver.enqueueAll none reads) := by
    simp only at routers
    rw [routers]
    apply isolated.quiet.enqueueAll none
    intro burst isRead
    obtain ⟨controller, isGather⟩ := spared burst isRead
    rw [MemoryBurst.Spares, isGather]
    simp
  refine ⟨⟨?_, ?_, quiet⟩, ?_⟩
  · intro vault other isCore notOwn
    have sameCores : store.cores = state.store.cores := same.cores
    simp only [Store.setProgram, sameCores]
    exact isolated.cores vault other isCore notOwn
  · intro other isProgram
    obtain rfl := Option.some.inj (isAttached.symm.trans isProgram)
    simp only [Store.setProgram, Function.update_self]
    exact stillSpares
  · exact same.hardware_eq

theorem leavesAlone_tickVertexProgram (inputs : TreeInputs F) :
    LeavesAlone config place state
      (state.tickVertexProgram config inputs) := by
  unfold tickVertexProgram
  cases isAttached : config.attached.vertexProgram with
  | none => exact .refl isolated
  | some ref =>
      have advanced :=
        leavesAlone_advanceProgram isolated isAttached inputs
      have requested := advanced.trans
        (leavesAlone_requestHidden advanced.isolated ref)
      have written := requested.trans
        (leavesAlone_writebackVertex requested.isolated ref)
      exact written.trans (leavesAlone_recordStats written.isolated ref)

/-- The turn of a core that is not the vault's. -/
theorem leavesAlone_tickCore
    {vault : Fin 16}
    {ref : Nat}
    (isAttached : config.attached.vpus vault = some ref)
    (notOwn : ref ≠ place.core) :
    LeavesAlone config place state (state.tickCore config ref) := by
  have avoids := isolated.cores vault ref isAttached notOwn
  let result := (state.store.cores ref).tick config.ops ref
    (state.store.piccolos (state.store.cores ref).piccolo)
    ((state.store.cores ref).lentHardware state.store)
  have wiring : (state.store.cores ref).KeepsWiring result.core :=
    SIMDCore.keepsWiring_tick config.ops ref _ _ _
  obtain ⟨installed, own⟩ := SIMDCore.installAvoids_installTick avoids ref
    state.store result
  have spare : ∀ burst ∈ result.request.toList,
      burst.Spares place.core := by
    intro burst requested
    have isReply := SIMDCore.onComplete_request_tick config.ops ref _ _ _
      (Option.mem_toList.mp requested)
    rw [MemoryBurst.Spares, isReply]
    simpa using notOwn
  let ticked : RunState F M :=
    { state with
      store := (state.store.cores ref).installTick ref state.store result }
  have alone : LeavesAlone config place state ticked := by
    refine ⟨⟨?_, ?_, ?_⟩, ?_⟩
    · intro other otherRef isOther otherNotOwn
      by_cases same : otherRef = ref
      · subst same
        simp only [ticked, own]
        exact wiring.avoids avoids
      · simp only [ticked, installed.cores otherRef same]
        exact isolated.cores other otherRef isOther otherNotOwn
    · simp only [ticked, installed.programs]
      exact isolated.program
    · simp only [ticked, traffic, SIMDCore.routers_installTick]
      exact isolated.quiet
    · simp only [ticked, Place.hardware, installed.array, installed.feeder,
        installed.cores place.core notOwn.symm]
  exact alone.trans (leavesAlone_route alone.isolated _ (.vpu ref) spare)

/-- The turn of another vault. -/
theorem leavesAlone_tickVault
    (owns : config.attached.Owns place)
    (inputs : TreeInputs F)
    {vault : Fin 16}
    (differs : vault ≠ place.vault) :
    LeavesAlone config place state
      (tickVault config (state, inputs) vault).1 := by
  unfold tickVault
  cases isCore : config.attached.vpus vault with
  | none => exact .refl isolated
  | some ref =>
      have notOwn : ref ≠ place.core := by
        rintro rfl
        exact differs (owns.coreOnce vault isCore)
      have ticked := leavesAlone_tickCore isolated isCore notOwn
      simp only
      split
      case h_1 feederRef arrayRef isFeeder isArray =>
        have differsFeeder : feederRef ≠ place.feeder := by
          rintro rfl
          exact differs (owns.feederOnce vault isFeeder)
        have differsArray : arrayRef ≠ place.array := by
          rintro rfl
          exact differs (owns.arrayOnce vault isArray)
        refine ticked.trans (.of_sameVault ticked.isolated ?_
          ticked.isolated.quiet)
        exact (Store.SameVault.setFeeder _ differsFeeder _).trans
          (.setArray _ differsArray _)
      case h_2 => exact ticked

/-- The turns of other vaults. -/
theorem leavesAlone_foldl_tickVault
    (owns : config.attached.Owns place)
    (inputs : TreeInputs F)
    {vaults : List (Fin 16)}
    (others : place.vault ∉ vaults) :
    LeavesAlone config place state
      (vaults.foldl (tickVault config) (state, inputs)).1 := by
  refine List.foldlRecOn
    (motive := fun progress : RunState F M × TreeInputs F =>
      LeavesAlone config place state progress.1) _ _ (.refl isolated) ?_
  rintro ⟨reached, reachedInputs⟩ alone vault member
  have differs : vault ≠ place.vault := fun same => others (same ▸ member)
  exact alone.trans
    (leavesAlone_tickVault alone.isolated owns reachedInputs differs)

/-- In a cycle everybody else leaves the vault alone, before and after the
vault's own turn. -/
theorem exists_turn (owns : config.attached.Owns place) :
    ∃ (before : RunState F M) (inputs : TreeInputs F),
      LeavesAlone config place state before ∧
      ((tickVault config (before, inputs) place.vault).1.Isolated config
          place →
        LeavesAlone config place
          (tickVault config (before, inputs) place.vault).1
          (state.cycle config)) := by
  have issued := leavesAlone_issuePiccolo isolated
  have routed := issued.trans (leavesAlone_tickRouter issued.isolated)
  obtain ⟨earlier, later, split⟩ :=
    List.append_of_mem (List.mem_finRange place.vault)
  have distinct := List.nodup_finRange 16
  rw [split] at distinct
  obtain ⟨-, -, disjoint⟩ := List.nodup_append.mp distinct
  have notEarlier : place.vault ∉ earlier := fun member =>
    disjoint _ member _ List.mem_cons_self rfl
  have notLater : place.vault ∉ later :=
    (List.nodup_cons.mp (List.nodup_append.mp distinct).2.1).1
  let start := (state.issuePiccolo config).tickRouter config
  let turn := earlier.foldl (tickVault config)
    (start, { vectors := 0, valid := false })
  have reached := leavesAlone_foldl_tickVault routed.isolated owns
    { vectors := 0, valid := false } notEarlier
  refine ⟨turn.1, turn.2, routed.trans reached, ?_⟩
  intro own
  let after := tickVault config turn place.vault
  have whole : start.tickVaults config =
      later.foldl (tickVault config) after := by
    unfold tickVaults
    rw [split, List.foldl_append, List.foldl_cons]
  have others := leavesAlone_foldl_tickVault own owns after.2 notLater
  have vaults : LeavesAlone config place after.1
      (start.tickVaults config).1 := by
    rw [whole]
    exact others
  have psau := vaults.trans (leavesAlone_tickPsau vaults.isolated
    (start.tickVaults config).2)
  have program := psau.trans (leavesAlone_tickVertexProgram psau.isolated
    (start.tickVaults config).2)
  have admitted := program.trans (leavesAlone_runAdmission program.isolated)
  have ticked := admitted.trans (leavesAlone_tickMemory admitted.isolated)
  exact ⟨⟨ticked.isolated.cores, ticked.isolated.program,
    ticked.isolated.quiet⟩, ticked.hardware⟩

end Cycle

end Steps

end RunState

end PimGraphs
