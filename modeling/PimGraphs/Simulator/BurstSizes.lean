import PimGraphs.Compute.GatherFrame
import PimGraphs.Simulator.Requests
import PimGraphs.Simulator.Turns

/-!
# Sizes of bursts

A burst on its way was on its way when the call began, or has been requested
since: by a LOAD of an attached core, by a controller in its element size, or
by the logic layer in the size of a cache line.  So a set of sizes that
contains all of these contains the size of every burst of a run.
-/

namespace PimGraphs

/-- A burst still to do was there before, or has been requested. -/
theorem Conserved.mem_toDo
    {M : Type}
    {attached : Option Nat}
    {initial last : Traffic M}
    (conserved : Conserved attached initial last)
    {burst : MemoryBurst}
    (member : burst ∈ toDo attached last) :
    burst ∈ toDo attached initial ∨
      ∃ event ∈ last.2.history, event.requested = some burst := by
  have whole : burst ∈ toDo attached initial +
      (last.2.history.filterMap (Event.handedOver attached) :
        Multiset MemoryBurst) := by
    rw [conserved]
    exact Multiset.mem_add.mpr (Or.inr member)
  refine (Multiset.mem_add.mp whole).imp_right fun handed => ?_
  obtain ⟨event, isEvent, isHanded⟩ :=
    List.mem_filterMap.mp (Multiset.mem_coe.mp handed)
  exact ⟨event, isEvent, Event.requested_of_handedOver isHanded⟩

/-- Fewer instructions are left, with controllers of the same element sizes
and programs that refer to the same controllers. -/
structure Store.Shrinks {F : Type} (before after : Store F) : Prop where
  queues : ∀ ref, (after.cores ref).instructionQueue ⊆
    (before.cores ref).instructionQueue
  elemBytes : ∀ ref,
    (after.piccolos ref).elemBytes = (before.piccolos ref).elemBytes
  refers : ∀ ref,
    (after.programs ref).piccolos = (before.programs ref).piccolos

namespace Store.Shrinks

variable {F : Type}

theorem refl (store : Store F) : store.Shrinks store :=
  ⟨fun _ _ member => member, fun _ => rfl, fun _ => rfl⟩

theorem setPiccolo
    (store : Store F)
    (ref : Nat)
    {controller : PiccoloGatherController}
    (same : controller.elemBytes = (store.piccolos ref).elemBytes) :
    store.Shrinks (store.setPiccolo ref controller) := by
  refine ⟨fun _ _ member => member, fun other => ?_, fun _ => rfl⟩
  simp only [Store.setPiccolo]
  by_cases here : other = ref
  · rw [here, Function.update_self]
    exact same
  · rw [Function.update_of_ne here]

/-- Callbacks request nothing. -/
theorem runCallback
    [Zero F]
    [One F]
    (store : Store F)
    (callback : Callback) :
    store.Shrinks (RunState.runCallback store callback) := by
  cases callback with
  | readComplete ref =>
      exact setPiccolo store ref
        ((store.piccolos ref).sameBatch_onReadComplete 0).elemBytes
  | loadReply ref =>
      refine ⟨fun other => ?_, fun _ => rfl, fun _ => rfl⟩
      simp only [RunState.runCallback, Store.setCore]
      by_cases here : other = ref
      · rw [here, Function.update_self, SIMDCore.onMemoryReply]
        split
        · exact fun _ member => member
        · exact fun _ member => member
      · rw [Function.update_of_ne here]
        exact fun _ member => member
  | loadHidden ref =>
      refine ⟨fun _ _ member => member, fun _ => rfl, fun other => ?_⟩
      simp only [RunState.runCallback, Store.setProgram]
      by_cases here : other = ref
      · rw [here, Function.update_self]
        rfl
      · rw [Function.update_of_ne here]
  | host _ => exact .refl store

end Store.Shrinks

namespace RunState

variable {F M : Type} {config : RunConfig F M} {sizes : UInt32 → Prop}
variable {state : RunState F M}

/-- The sizes contain those of all bursts requested so far, and of all that
the attached components can still request. -/
structure Sized
    (config : RunConfig F M)
    (sizes : UInt32 → Prop)
    (state : RunState F M) : Prop where
  requested : ∀ event ∈ state.driver.history, ∀ burst,
    event.requested = some burst → sizes burst.sizeBytes
  loads : ∀ vault ref, config.attached.vpus vault = some ref →
    ∀ inst ∈ (state.store.cores ref).instructionQueue,
      inst.op = .load → sizes inst.sizeBytes
  controller : ∀ ref, config.attached.piccolo = some ref →
    sizes (state.store.piccolos ref).elemBytes
  program : ∀ ref, config.attached.vertexProgram = some ref →
    ∀ vault other, (state.store.programs ref).piccolos vault = some other →
      sizes (state.store.piccolos other).elemBytes
  logicLayer : config.attached.psau ≠ none ∨
    config.attached.vertexProgram ≠ none → sizes 64

/-- New requests in the allowed sizes. -/
theorem Sized.of_shrinks
    (sized : Sized config sizes state)
    {after : RunState F M}
    (shrinks : state.store.Shrinks after.store)
    {events : List Event}
    (history : after.driver.history = state.driver.history ++ events)
    (requested : ∀ event ∈ events, ∀ burst,
      event.requested = some burst → sizes burst.sizeBytes) :
    Sized config sizes after where
  requested := by
    rw [history]
    exact List.forall_mem_append.mpr ⟨sized.requested, requested⟩
  loads := fun vault ref isAttached inst member =>
    sized.loads vault ref isAttached inst (shrinks.queues ref member)
  controller := by
    intro ref isAttached
    rw [shrinks.elemBytes]
    exact sized.controller ref isAttached
  program := by
    intro ref isAttached vault other refers
    rw [shrinks.refers] at refers
    rw [shrinks.elemBytes]
    exact sized.program ref isAttached vault other refers
  logicLayer := sized.logicLayer

/-- Nothing is requested. -/
theorem Sized.of_silent
    (sized : Sized config sizes state)
    {after : RunState F M}
    (shrinks : state.store.Shrinks after.store)
    {events : List Event}
    (history : after.driver.history = state.driver.history ++ events)
    (silent : ∀ event ∈ events, event.requested = none) :
    Sized config sizes after := by
  refine sized.of_shrinks shrinks history fun event member burst isRequest => ?_
  rw [silent event member] at isRequest
  exact absurd isRequest.symm (Option.some_ne_none burst)

section Turn

variable [Zero F] [One F] [Add F] [Sub F] [Mul F] [Div F] [NatCast F]

/-- What the turn of a core leaves in the store. -/
theorem shrinks_tickCore (ref : Nat) :
    state.store.Shrinks (state.tickCore config ref).store := by
  have keeps := state.keeps_coreResult config ref
  refine ⟨fun other => ?_, fun other => ?_, fun other => ?_⟩
  · rw [cores_tickCore]
    by_cases here : other = ref
    · rw [here, Function.update_self]
      exact keeps.queue
    · rw [Function.update_of_ne here]
      exact fun _ member => member
  · rw [piccolos_tickCore]
    by_cases here : other = (state.store.cores ref).piccolo
    · rw [here, Function.update_self]
      exact keeps.elemBytes
    · rw [Function.update_of_ne here]
  · rw [programs_tickCore]

/-- A turn requests nothing but bursts of the allowed sizes. -/
theorem Sized.turn
    (sized : Sized config sizes state)
    {after : RunState F M}
    (turn : Turn config state after) :
    Sized config sizes after := by
  cases turn with
  | issue ref isAttached =>
      refine sized.of_shrinks (.setPiccolo state.store ref
        ((state.store.piccolos ref).sameBatch_tickIssue ref).elemBytes)
        (Driver.history_enqueueAll _ _ _) ?_
      intro event member burst isRequest
      obtain ⟨other, isRead, rfl⟩ := List.mem_map.mp member
      obtain rfl := Option.some.inj isRequest
      rw [(PiccoloGatherController.read_tickIssue
        (Option.mem_toList.mp isRead)).2]
      exact sized.controller ref isAttached
  | deliver ref _ =>
      refine sized.of_silent ⟨fun _ _ member => member, fun _ => rfl,
        fun _ => rfl⟩ (Driver.history_enqueueAll _ _ _) ?_
      intro event member
      obtain ⟨burst, -, rfl⟩ := List.mem_map.mp member
      rfl
  | core vault ref isAttached =>
      refine sized.of_shrinks (shrinks_tickCore ref)
        (congrArg Driver.history (driver_tickCore config state ref)) ?_
      intro event member burst isRequest
      obtain ⟨other, isHanded, rfl⟩ := List.mem_map.mp member
      obtain rfl := Option.some.inj isRequest
      obtain ⟨inst, waits, isLoad, rfl⟩ := (state.keeps_coreResult config
        ref).request other (Option.mem_toList.mp isHanded)
      exact sized.loads vault ref isAttached inst waits isLoad
  | hardware store same =>
      have history : state.driver.history = state.driver.history ++ [] :=
        (List.append_nil _).symm
      refine sized.of_silent ⟨fun ref => ?_, fun ref => ?_, fun ref => ?_⟩
        history fun _ none => absurd none List.not_mem_nil
      · rw [same.cores]
        exact fun _ member => member
      · rw [same.piccolos]
      · rw [same.programs]
  | program ref inputs isAttached =>
      obtain ⟨refers, uses, areReads⟩ :=
        TGNVertexProgram.tickUses_tick config.ops (state.store.programs ref)
          state.store inputs.vectors
      have shrinks : state.store.Shrinks
          (state.advanceProgram config ref inputs).store := by
        have cores : (state.advanceProgram config ref inputs).store.cores =
            state.store.cores := uses.cores
        refine ⟨fun other => ?_, uses.elemBytes, fun other => ?_⟩
        · rw [cores]
          exact fun _ member => member
        · simp only [advanceProgram, Store.setProgram]
          by_cases here : other = ref
          · rw [here, Function.update_self]
            exact refers
          · rw [Function.update_of_ne here, uses.programs]
      refine sized.of_shrinks shrinks (Driver.history_enqueueAll _ _ _) ?_
      intro event member burst isRequest
      obtain ⟨other, isRead, rfl⟩ := List.mem_map.mp member
      obtain rfl := Option.some.inj isRequest
      obtain ⟨vault, controller, isOwn, -, size⟩ := areReads other isRead
      rw [size]
      exact sized.program ref isAttached vault controller isOwn
  | logic router producer burst _ present isLogic =>
      have history : (state.route router producer [burst]).driver.history =
          state.driver.history ++ [.routed router producer burst] := rfl
      refine sized.of_shrinks ⟨fun _ _ member => member, fun _ => rfl,
        fun _ => rfl⟩ history ?_
      intro event member other isRequest
      rw [List.mem_singleton.mp member] at isRequest
      obtain rfl := Option.some.inj isRequest
      rw [isLogic.sizeBytes]
      exact sized.logicLayer present
  | locals _ _ _ _ => exact ⟨sized.requested, sized.loads, sized.controller,
      sized.program, sized.logicLayer⟩
  | @admission pcId burst rest used memory _ _ _ _ =>
      refine sized.of_silent (.refl _) rfl ?_
      intro event member
      rw [List.mem_singleton.mp member]
      rfl
  | memory _ => exact ⟨sized.requested, sized.loads, sized.controller,
      sized.program, sized.logicLayer⟩
  | complete slot =>
      cases found : state.driver.inflight.lookup slot with
      | none =>
          have same : state.completeSlot slot = state := by
            simp only [completeSlot_eq, Driver.complete_eq, found]
          rw [same]
          exact sized
      | some request =>
          refine sized.of_silent ?_ (completeSlot_history found) ?_
          · rw [completeSlot_eq]
            simp only
            split
            · exact .refl _
            · exact .runCallback _ _
          · intro event member
            rcases List.mem_cons.mp member with rfl | ran
            · rfl
            · obtain ⟨callback, -, rfl⟩ := Option.map_eq_some_iff.mp
                (Option.mem_toList.mp ran)
              rfl

theorem Sized.turns
    (sized : Sized config sizes state)
    {after : RunState F M}
    (turns : Turns config state after) :
    Sized config sizes after :=
  turns.keeps (Sized config sizes) (fun _ _ turn before => before.turn turn)
    sized

end Turn

end RunState

namespace RamulatorHbmSimulator

variable {F M : Type} {simulator : RamulatorHbmSimulator F M}
variable {sizes : UInt32 → Prop}

/-- All bursts on their way when a call begins, and all that the attached
components can request in it, have allowed sizes. -/
structure UsesSizes
    (simulator : RamulatorHbmSimulator F M)
    (sizes : UInt32 → Prop) : Prop where
  onTheWay : ∀ burst ∈ toDo simulator.attached.router simulator.enter.traffic,
    sizes burst.sizeBytes
  sized : simulator.enter.Sized simulator.runConfig sizes

/-- More sizes are allowed. -/
theorem UsesSizes.imp
    {more : UInt32 → Prop}
    (usesSizes : simulator.UsesSizes sizes)
    (includes : ∀ bytes, sizes bytes → more bytes) :
    simulator.UsesSizes more where
  onTheWay := fun burst member => includes _ (usesSizes.onTheWay burst member)
  sized :=
    { requested := fun event member burst isRequest =>
        includes _ (usesSizes.sized.requested event member burst isRequest)
      loads := fun vault ref isAttached inst member isLoad =>
        includes _ (usesSizes.sized.loads vault ref isAttached inst member
          isLoad)
      controller := fun ref isAttached =>
        includes _ (usesSizes.sized.controller ref isAttached)
      program := fun ref isAttached vault other refers =>
        includes _ (usesSizes.sized.program ref isAttached vault other refers)
      logicLayer := fun present =>
        includes _ (usesSizes.sized.logicLayer present) }

variable [Zero F] [One F] [Add F] [Sub F] [Mul F] [Div F] [NatCast F]

theorem turns_before (simulator : RamulatorHbmSimulator F M) (time : Nat) :
    RunState.Turns simulator.runConfig simulator.enter
      (simulator.before time) :=
  RunState.turns_clocked _ _ time

/-- Every burst on its way during a call has an allowed size. -/
theorem UsesSizes.of_mem_toDo
    (usesSizes : simulator.UsesSizes sizes)
    {state : RunState F M}
    (turns : RunState.Turns simulator.runConfig simulator.enter state)
    {burst : MemoryBurst}
    (member : burst ∈ toDo simulator.attached.router state.traffic) :
    sizes burst.sizeBytes := by
  have start : RunState.Conserves simulator.runConfig
      simulator.enter.traffic simulator.enter :=
    Conserved.of_history_nil rfl
  have conserves := start.turns turns
  rcases Conserved.mem_toDo conserves member with earlier | requested
  · exact usesSizes.onTheWay burst earlier
  · obtain ⟨event, isEvent, isRequest⟩ := requested
    exact (usesSizes.sized.turns turns).requested event isEvent burst isRequest

/-- So has every burst pending on a port. -/
theorem UsesSizes.of_mem_pending
    (usesSizes : simulator.UsesSizes sizes)
    {state : RunState F M}
    (turns : RunState.Turns simulator.runConfig simulator.enter state)
    {pcId : PcId}
    {burst : MemoryBurst}
    (member : burst ∈ (state.driver.mux.port pcId).pending) :
    sizes burst.sizeBytes := by
  apply usesSizes.of_mem_toDo turns
  refine Multiset.mem_add.mpr (Or.inl (Multiset.mem_add.mpr (Or.inr ?_)))
  exact Multiset.mem_sum.mpr ⟨pcId, Finset.mem_univ pcId, member⟩

end RamulatorHbmSimulator

end PimGraphs
