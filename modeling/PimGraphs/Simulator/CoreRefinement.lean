import PimGraphs.Compute.GatherFrame
import PimGraphs.Compute.Interleaving
import PimGraphs.Simulator.Requests
import PimGraphs.Simulator.Turns

/-!
# The system of a core inside a run

A core and its gather controller, together with what has been requested and
completed on their behalf, form the system of core and controller.  As long as
nobody else uses the controller, whatever happens in a run is for this system
nothing, or a step of its own.
-/

namespace PimGraphs

/-! ## The system inside a state -/

namespace RunState

variable {F M : Type}

/-- A core, its controller and what has happened on their behalf.  The vectors
pushed to the feeder leave no trace in a state. -/
def coreSystem
    (wiring : Wiring)
    (pushes : List (Vec16 F))
    (state : RunState F M) : CoreSystem F where
  core := state.store.cores wiring.core
  piccolo := state.store.piccolos wiring.piccolo
  pushes := pushes
  bursts := requestsFor (.loadReply wiring.core) state.driver.history
  reads := requestsFor (.readComplete wiring.piccolo) state.driver.history
  loadsCompleted :=
    (completionsFor (.loadReply wiring.core) state.driver.history).length
  readsCompleted :=
    (completionsFor (.readComplete wiring.piccolo)
      state.driver.history).length

/-- Nobody but the core uses its controller. -/
structure Exclusive
    (config : RunConfig F M)
    (wiring : Wiring)
    (state : RunState F M) : Prop where
  own : (state.store.cores wiring.core).piccolo = wiring.piccolo
  cores : ∀ vault ref, config.attached.vpus vault = some ref →
    ref ≠ wiring.core →
      (state.store.cores ref).LeavesController wiring.piccolo
  program : ∀ ref, config.attached.vertexProgram = some ref →
    (state.store.programs ref).LeavesController wiring.piccolo

/-- An event that has to do with neither the core nor its controller. -/
def Ignores (wiring : Wiring) (event : Event) : Prop :=
  ¬ event.Concerns (.loadReply wiring.core) ∧
    ¬ event.Concerns (.readComplete wiring.piccolo)

/-- A burst that runs neither the core's nor its controller's callback. -/
def SpareBurst (wiring : Wiring) (burst : MemoryBurst) : Prop :=
  burst.onComplete ≠ some (.loadReply wiring.core) ∧
    burst.onComplete ≠ some (.readComplete wiring.piccolo)

section Frame

variable {config : RunConfig F M} {wiring : Wiring}
variable {before after : RunState F M}

theorem ignores_of_requested
    {event : Event}
    (spare : ∀ burst, event.requested = some burst → SpareBurst wiring burst)
    (noCompletion : event.completedBurst = none) :
    Ignores wiring event := by
  constructor
  · rintro ⟨burst, isRequest | isCompletion, runs⟩
    · exact (spare burst isRequest).1 runs
    · exact absurd (isCompletion.symm.trans noCompletion)
        (Option.some_ne_none burst)
  · rintro ⟨burst, isRequest | isCompletion, runs⟩
    · exact (spare burst isRequest).2 runs
    · exact absurd (isCompletion.symm.trans noCompletion)
        (Option.some_ne_none burst)

theorem ignores_completionEvents
    {burst : MemoryBurst}
    (spare : SpareBurst wiring burst)
    (slot : Nat) :
    ∀ event ∈ completionEvents slot burst, Ignores wiring event := by
  intro event member
  rcases List.mem_cons.mp member with rfl | ran
  · constructor
    · rintro ⟨other, isRequest | isCompletion, runs⟩
      · exact absurd isRequest.symm (Option.some_ne_none other)
      · obtain rfl := Option.some.inj isCompletion
        exact spare.1 runs
    · rintro ⟨other, isRequest | isCompletion, runs⟩
      · exact absurd isRequest.symm (Option.some_ne_none other)
      · obtain rfl := Option.some.inj isCompletion
        exact spare.2 runs
  · obtain ⟨callback, -, rfl⟩ := Option.map_eq_some_iff.mp
      (Option.mem_toList.mp ran)
    exact ignores_of_requested
      (fun other none => absurd none.symm (Option.some_ne_none other)) rfl

theorem ignores_of_silent
    {event : Event}
    (noRequest : event.requested = none)
    (noCompletion : event.completedBurst = none) :
    Ignores wiring event := by
  apply ignores_of_requested _ noCompletion
  intro burst isRequest
  exact absurd (isRequest.symm.trans noRequest) (Option.some_ne_none burst)

/-- The system after some more events. -/
theorem coreSystem_of_append
    {events : List Event}
    (history : after.driver.history = before.driver.history ++ events)
    (pushes : List (Vec16 F)) :
    after.coreSystem wiring pushes =
      { core := after.store.cores wiring.core
        piccolo := after.store.piccolos wiring.piccolo
        pushes := pushes
        bursts := (before.coreSystem wiring pushes).bursts ++
          requestsFor (.loadReply wiring.core) events
        reads := (before.coreSystem wiring pushes).reads ++
          requestsFor (.readComplete wiring.piccolo) events
        loadsCompleted := (before.coreSystem wiring pushes).loadsCompleted +
          (completionsFor (.loadReply wiring.core) events).length
        readsCompleted := (before.coreSystem wiring pushes).readsCompleted +
          (completionsFor (.readComplete wiring.piccolo) events).length } := by
  simp only [coreSystem, history, requestsFor_append, completionsFor_append,
    List.length_append]

/-- What the system does not see. -/
theorem coreSystem_eq
    (core : after.store.cores wiring.core = before.store.cores wiring.core)
    (piccolo : after.store.piccolos wiring.piccolo =
      before.store.piccolos wiring.piccolo)
    {events : List Event}
    (history : after.driver.history = before.driver.history ++ events)
    (ignored : ∀ event ∈ events, Ignores wiring event)
    (pushes : List (Vec16 F)) :
    after.coreSystem wiring pushes = before.coreSystem wiring pushes := by
  have noReply := fun event member => (ignored event member).1
  have noRead := fun event member => (ignored event member).2
  rw [coreSystem_of_append history, core, piccolo,
    requestsFor_of_not_concerns noReply, requestsFor_of_not_concerns noRead,
    completionsFor_of_not_concerns noReply,
    completionsFor_of_not_concerns noRead, List.append_nil, List.append_nil]
  rfl

/-- The same cores, controllers and programs keep the controller exclusive. -/
theorem Exclusive.of_same
    (exclusive : before.Exclusive config wiring)
    (cores : after.store.cores = before.store.cores)
    (programs : after.store.programs = before.store.programs) :
    after.Exclusive config wiring where
  own := by
    rw [cores]
    exact exclusive.own
  cores := by
    rw [cores]
    exact exclusive.cores
  program := by
    rw [programs]
    exact exclusive.program

variable [Zero F] [One F] [Add F] [Sub F] [Mul F] [Div F] [NatCast F]

/-- What happens in between is nothing for the system, or steps of its own. -/
structure Proceeds
    (config : RunConfig F M)
    (wiring : Wiring)
    (before after : RunState F M) : Prop where
  exclusive : after.Exclusive config wiring
  steps : ∀ pushes, ∃ more,
    Relation.ReflTransGen (CoreSystem.Step config.ops wiring)
      (before.coreSystem wiring pushes) (after.coreSystem wiring more)

theorem Proceeds.refl (exclusive : before.Exclusive config wiring) :
    Proceeds config wiring before before :=
  ⟨exclusive, fun pushes => ⟨pushes, .refl⟩⟩

theorem Proceeds.trans
    {middle : RunState F M}
    (first : Proceeds config wiring before middle)
    (second : Proceeds config wiring middle after) :
    Proceeds config wiring before after := by
  refine ⟨second.exclusive, fun pushes => ?_⟩
  obtain ⟨more, firstSteps⟩ := first.steps pushes
  obtain ⟨most, secondSteps⟩ := second.steps more
  exact ⟨most, firstSteps.trans secondSteps⟩

/-- What the system does not see is nothing for it. -/
theorem Proceeds.of_ignored
    (exclusive : after.Exclusive config wiring)
    (core : after.store.cores wiring.core = before.store.cores wiring.core)
    (piccolo : after.store.piccolos wiring.piccolo =
      before.store.piccolos wiring.piccolo)
    {events : List Event}
    (history : after.driver.history = before.driver.history ++ events)
    (ignored : ∀ event ∈ events, Ignores wiring event) :
    Proceeds config wiring before after := by
  refine ⟨exclusive, fun pushes => ⟨pushes, ?_⟩⟩
  rw [coreSystem_eq core piccolo history ignored]

/-- Nothing but the traffic has changed. -/
theorem Proceeds.of_traffic
    (exclusive : before.Exclusive config wiring)
    (store : (after.store.cores, after.store.piccolos, after.store.programs) =
      (before.store.cores, before.store.piccolos, before.store.programs))
    {events : List Event}
    (history : after.driver.history = before.driver.history ++ events)
    (ignored : ∀ event ∈ events, Ignores wiring event) :
    Proceeds config wiring before after := by
  obtain ⟨cores, rest⟩ := Prod.mk.inj store
  obtain ⟨piccolos, programs⟩ := Prod.mk.inj rest
  exact .of_ignored (exclusive.of_same cores programs)
    (congrFun cores wiring.core) (congrFun piccolos wiring.piccolo) history
    ignored

end Frame

end RunState

namespace RunState

variable {F M : Type} {config : RunConfig F M} {wiring : Wiring}
variable {state : RunState F M}

/-! ## The turns of a cycle -/

section Turns

variable [Zero F] [One F] [Add F] [Sub F] [Mul F] [Div F] [NatCast F]
variable (exclusive : state.Exclusive config wiring)
include exclusive

/-- Handing over bursts that have nothing to do with the system. -/
theorem proceeds_route
    (router : Nat)
    (producer : Producer)
    {bursts : List MemoryBurst}
    (spare : ∀ burst ∈ bursts, SpareBurst wiring burst) :
    Proceeds config wiring state (state.route router producer bursts) := by
  have history : (state.route router producer bursts).driver.history =
      state.driver.history ++ bursts.map (.routed router producer) := rfl
  refine .of_traffic exclusive rfl history ?_
  intro event member
  obtain ⟨burst, isBurst, rfl⟩ := List.mem_map.mp member
  refine ignores_of_requested ?_ rfl
  intro other same
  obtain rfl := Option.some.inj same
  exact spare burst isBurst

/-- The attached router delivers to the ports what it has been handed. -/
theorem proceeds_deliver (ref : Nat) :
    Proceeds config wiring state
      { state with
        store := state.store.setRouter ref (state.store.routers ref).tick.1
        driver := state.driver.enqueueAll (some ref)
          (state.store.routers ref).tick.2 } := by
  refine .of_traffic exclusive rfl (Driver.history_enqueueAll _ _ _) ?_
  intro event member
  obtain ⟨burst, -, rfl⟩ := List.mem_map.mp member
  exact ignores_of_silent rfl rfl

/-- Nothing but what the system does not see has changed. -/
theorem proceeds_of_unseen
    {after : RunState F M}
    (store : (after.store.cores, after.store.piccolos, after.store.programs) =
      (state.store.cores, state.store.piccolos, state.store.programs))
    (history : after.driver.history = state.driver.history) :
    Proceeds config wiring state after :=
  .of_traffic exclusive store (history.trans (List.append_nil _).symm)
    fun _ none => absurd none List.not_mem_nil

/-- The tick of the attached vertex program. -/
theorem proceeds_advanceProgram
    {ref : Nat}
    (isAttached : config.attached.vertexProgram = some ref)
    (inputs : TreeInputs F) :
    Proceeds config wiring state
      (state.advanceProgram config ref inputs) := by
  have leaves := exclusive.program ref isAttached
  obtain ⟨refers, ⟨cores, -, -, others⟩, areReads⟩ :=
    TGNVertexProgram.tickUses_tick config.ops (state.store.programs ref)
      state.store inputs.vectors
  have piccolo := others wiring.piccolo leaves
  unfold advanceProgram
  generalize (state.store.programs ref).tick config.ops state.store
    inputs.vectors = after at refers cores piccolo areReads ⊢
  obtain ⟨program, store, reads⟩ := after
  dsimp only at refers cores piccolo areReads
  refine .of_ignored ⟨?_, ?_, ?_⟩ (congrFun cores wiring.core) piccolo
    (Driver.history_enqueueAll _ _ _) ?_
  · simp only [Store.setProgram, cores]
    exact exclusive.own
  · simp only [Store.setProgram, cores]
    exact exclusive.cores
  · intro other isProgram
    obtain rfl := Option.some.inj (isAttached.symm.trans isProgram)
    simp only [Store.setProgram, Function.update_self]
    intro vault
    rw [refers]
    exact leaves vault
  · intro event member
    obtain ⟨burst, isRead, rfl⟩ := List.mem_map.mp member
    obtain ⟨vault, controller, isOwn, runs, -⟩ := areReads burst isRead
    have differs : controller ≠ wiring.piccolo := fun same =>
      leaves vault (same ▸ isOwn)
    refine ignores_of_requested ?_ rfl
    intro other same
    obtain rfl := Option.some.inj same
    rw [SpareBurst, runs]
    exact ⟨by simp, by simpa using differs⟩

/-- The issue tick of the attached controller. -/
theorem proceeds_issue (ref : Nat) :
    Proceeds config wiring state
      { state with
        store := state.store.setPiccolo ref
          ((state.store.piccolos ref).tickIssue ref).1
        driver := state.driver.enqueueAll none
          ((state.store.piccolos ref).tickIssue ref).2.toList } := by
  let ticked := (state.store.piccolos ref).tickIssue ref
  let next : RunState F M :=
    { state with
      store := state.store.setPiccolo ref ticked.1
      driver := state.driver.enqueueAll none ticked.2.toList }
  have stillExclusive : next.Exclusive config wiring :=
    ⟨exclusive.own, exclusive.cores, exclusive.program⟩
  have runs : ∀ burst ∈ ticked.2.toList,
      burst.onComplete = some (.readComplete ref) := fun burst member =>
    (PiccoloGatherController.read_tickIssue (Option.mem_toList.mp member)).1
  have history : next.driver.history = state.driver.history ++
      ticked.2.toList.map fun burst => .enqueued none burst.pcId burst :=
    state.driver.history_enqueueAll none ticked.2.toList
  change Proceeds config wiring state next
  by_cases own : ref = wiring.piccolo
  · subst own
    refine ⟨stillExclusive, fun pushes => ⟨pushes, .single ?_⟩⟩
    rw [coreSystem_of_append history, completionsFor_map _ fun _ => rfl,
      completionsFor_map _ fun _ => rfl, requestsFor_map _ fun _ => rfl,
      requestsFor_map _ fun _ => rfl, filter_runs_eq_self runs,
      filter_runs_eq_nil runs Callback.noConfusion, List.append_nil]
    simp only [next, Store.setPiccolo, Function.update_self]
    exact .issue (state.coreSystem wiring pushes)
  · refine .of_ignored stillExclusive rfl ?_ history ?_
    · exact Function.update_of_ne (Ne.symm own) _ _
    · intro event member
      obtain ⟨burst, isRead, rfl⟩ := List.mem_map.mp member
      refine ignores_of_requested ?_ rfl
      intro other same
      obtain rfl := Option.some.inj same
      rw [SpareBurst, runs burst isRead]
      exact ⟨by simp, by simpa using own⟩

/-- The turn of the core itself. -/
theorem proceeds_tickCore_own :
    Proceeds config wiring state (state.tickCore config wiring.core) := by
  let result := state.coreResult config wiring.core
  have keeps := state.keeps_coreResult config wiring.core
  have own := exclusive.own
  have runs : ∀ burst ∈ result.request.toList,
      burst.onComplete = some (.loadReply wiring.core) := by
    intro burst member
    obtain ⟨inst, -, -, rfl⟩ :=
      keeps.request burst (Option.mem_toList.mp member)
    rfl
  have history : (state.tickCore config wiring.core).driver.history =
      state.driver.history ++ result.request.toList.map
        (.routed (state.store.cores wiring.core).router
          (.vpu wiring.core)) := rfl
  refine ⟨⟨?_, ?_, ?_⟩, fun pushes =>
    ⟨pushes ++ result.pushed.toList, .single ?_⟩⟩
  · rw [cores_tickCore, Function.update_self]
    exact keeps.links.piccolo.trans own
  · intro vault ref isAttached notOwn
    rw [cores_tickCore, Function.update_of_ne notOwn]
    exact exclusive.cores vault ref isAttached notOwn
  · rw [programs_tickCore]
    exact exclusive.program
  · rw [coreSystem_of_append history, completionsFor_map _ fun _ => rfl,
      completionsFor_map _ fun _ => rfl, requestsFor_map _ fun _ => rfl,
      requestsFor_map _ fun _ => rfl, filter_runs_eq_self runs,
      filter_runs_eq_nil runs Callback.noConfusion, List.append_nil,
      cores_tickCore, piccolos_tickCore, own, Function.update_self,
      Function.update_self]
    have ticked : (state.coreSystem wiring pushes).core.tick config.ops
        wiring.core (state.coreSystem wiring pushes).piccolo
          ((state.store.cores wiring.core).lentHardware state.store) =
            result := by
      change (state.store.cores wiring.core).tick config.ops wiring.core
        (state.store.piccolos wiring.piccolo) _ = result
      rw [← own]
      rfl
    have step : CoreSystem.Step config.ops wiring _ _ :=
      .core ((state.store.cores wiring.core).lentHardware state.store)
        (state.coreSystem wiring pushes)
    rw [CoreSystem.tickCore, ticked] at step
    exact step

/-- The turn of another attached core. -/
theorem proceeds_tickCore_other
    {vault : Fin 16}
    {ref : Nat}
    (isAttached : config.attached.vpus vault = some ref)
    (notOwn : ref ≠ wiring.core) :
    Proceeds config wiring state (state.tickCore config ref) := by
  let result := state.coreResult config ref
  have leaves := exclusive.cores vault ref isAttached notOwn
  obtain ⟨stillLeaves, leavesPiccolo⟩ := leaves.tick config.ops ref
    (state.store.piccolos (state.store.cores ref).piccolo)
    ((state.store.cores ref).lentHardware state.store)
  have sameCore : (state.tickCore config ref).store.cores wiring.core =
      state.store.cores wiring.core := by
    rw [cores_tickCore, Function.update_of_ne (Ne.symm notOwn)]
  have history : (state.tickCore config ref).driver.history =
      state.driver.history ++ result.request.toList.map
        (.routed (state.store.cores ref).router (.vpu ref)) := rfl
  refine .of_ignored ⟨?_, ?_, ?_⟩ sameCore ?_ history ?_
  · rw [sameCore]
    exact exclusive.own
  · intro other otherRef isOther otherNotOwn
    rw [cores_tickCore]
    by_cases same : otherRef = ref
    · rw [same, Function.update_self]
      exact stillLeaves
    · rw [Function.update_of_ne same]
      exact exclusive.cores other otherRef isOther otherNotOwn
  · rw [programs_tickCore]
    exact exclusive.program
  · rw [piccolos_tickCore]
    by_cases shared : wiring.piccolo = (state.store.cores ref).piccolo
    · rw [shared, Function.update_self]
      exact leavesPiccolo shared.symm
    · rw [Function.update_of_ne shared]
  · intro event member
    obtain ⟨burst, isRequest, rfl⟩ := List.mem_map.mp member
    obtain ⟨inst, -, -, rfl⟩ := (state.keeps_coreResult config ref).request
      burst (Option.mem_toList.mp isRequest)
    refine ignores_of_requested ?_ rfl
    intro other same
    obtain rfl := Option.some.inj same
    exact ⟨by simpa [SIMDCore.loadBurst] using notOwn,
      by simp [SIMDCore.loadBurst]⟩

omit [Add F] [Sub F] [Mul F] [Div F] [NatCast F] exclusive in
/-- Callbacks keep the controller exclusive. -/
theorem exclusive_runCallback
    {after : RunState F M}
    (exclusive : state.Exclusive config wiring)
    (callback : Callback)
    (stored : after.store = runCallback state.store callback) :
    after.Exclusive config wiring := by
  have links (ref : Nat) : (state.store.cores ref).SameLinks
      (after.store.cores ref) := by
    rw [stored]
    cases callback with
    | loadReply replied =>
        simp only [runCallback, Store.setCore]
        by_cases same : ref = replied
        · rw [same, Function.update_self]
          exact SIMDCore.sameLinks_onMemoryReply _ _
        · rw [Function.update_of_ne same]
          exact .refl _
    | readComplete _ => exact .refl _
    | loadHidden _ => exact .refl _
    | host _ => exact .refl _
  refine ⟨(links wiring.core).piccolo.trans exclusive.own, ?_, ?_⟩
  · intro vault ref isAttached notOwn
    have leaves := exclusive.cores vault ref isAttached notOwn
    rw [stored]
    cases callback with
    | loadReply replied =>
        simp only [runCallback, Store.setCore]
        by_cases same : ref = replied
        · rw [← same, Function.update_self]
          exact leaves.onMemoryReply _
        · rw [Function.update_of_ne same]
          exact leaves
    | readComplete _ => exact leaves
    | loadHidden _ => exact leaves
    | host _ => exact leaves
  · intro ref isAttached
    have leaves := exclusive.program ref isAttached
    rw [stored]
    cases callback with
    | loadHidden loaded =>
        simp only [runCallback, Store.setProgram]
        by_cases same : ref = loaded
        · rw [← same, Function.update_self]
          exact leaves
        · rw [Function.update_of_ne same]
          exact leaves
    | loadReply _ => exact leaves
    | readComplete _ => exact leaves
    | host _ => exact leaves

omit [Add F] [Sub F] [Mul F] [Div F] [NatCast F] exclusive in
/-- What a callback that is not for the system leaves alone. -/
theorem runCallback_of_spare
    (store : Store F)
    {callback : Callback}
    (notReply : callback ≠ .loadReply wiring.core)
    (notRead : callback ≠ .readComplete wiring.piccolo) :
    (runCallback store callback).cores wiring.core =
        store.cores wiring.core ∧
      (runCallback store callback).piccolos wiring.piccolo =
        store.piccolos wiring.piccolo := by
  cases callback with
  | loadReply ref =>
      have differs : wiring.core ≠ ref := fun same =>
        notReply (congrArg Callback.loadReply same.symm)
      exact ⟨Function.update_of_ne differs _ _, rfl⟩
  | readComplete ref =>
      have differs : wiring.piccolo ≠ ref := fun same =>
        notRead (congrArg Callback.readComplete same.symm)
      exact ⟨rfl, Function.update_of_ne differs _ _⟩
  | loadHidden _ => exact ⟨rfl, rfl⟩
  | host _ => exact ⟨rfl, rfl⟩

omit exclusive in
/-- The callback of one fired slot. -/
theorem proceeds_completeSlot
    (exclusive : state.Exclusive config wiring)
    {initial : Traffic M}
    (conserves : Conserves config initial state)
    (noReply : NoneOnTheWay config.attached.router
      (.loadReply wiring.core) initial)
    (noRead : NoneOnTheWay config.attached.router
      (.readComplete wiring.piccolo) initial)
    (slot : Nat) :
    Proceeds config wiring state (state.completeSlot slot) := by
  cases found : state.driver.inflight.lookup slot with
  | none =>
      have same : state.completeSlot slot = state := by
        simp only [completeSlot_eq, Driver.complete_eq, found]
      rw [same]
      exact .refl exclusive
  | some request =>
      have history : (state.completeSlot slot).driver.history =
          state.driver.history ++ completionEvents slot request.burst :=
        completeSlot_history found
      have ran := Driver.complete_callback found
      cases runs : request.burst.onComplete with
      | none =>
          rw [runs] at ran
          have stored : (state.completeSlot slot).store = state.store := by
            simp only [completeSlot_eq, ran]
          exact .of_traffic exclusive (by rw [stored]) history
            (ignores_completionEvents (by simp [SpareBurst, runs]) slot)
      | some callback =>
          rw [runs] at ran
          have stored : (state.completeSlot slot).store =
              runCallback state.store callback := by
            simp only [completeSlot_eq, ran]
          have stillExclusive := exclusive_runCallback exclusive callback
            stored
          have one : ∀ burst ∈ [request.burst],
              burst.onComplete = some callback := fun burst member => by
            rw [List.mem_singleton.mp member]
            exact runs
          by_cases isReply : callback = .loadReply wiring.core
          · subst isReply
            refine ⟨stillExclusive, fun pushes => ⟨pushes, .single ?_⟩⟩
            rw [coreSystem_of_append history, requestsFor_completionEvents,
              requestsFor_completionEvents, completionsFor_completionEvents,
              completionsFor_completionEvents, filter_runs_eq_self one,
              filter_runs_eq_nil one Callback.noConfusion, List.append_nil,
              List.append_nil, stored]
            simp only [runCallback, Store.setCore, Function.update_self]
            exact .load (state.coreSystem wiring pushes)
              (conserves.completions_lt noReply found runs)
          · by_cases isRead : callback = .readComplete wiring.piccolo
            · subst isRead
              refine ⟨stillExclusive, fun pushes => ⟨pushes, .single ?_⟩⟩
              rw [coreSystem_of_append history, requestsFor_completionEvents,
                requestsFor_completionEvents, completionsFor_completionEvents,
                completionsFor_completionEvents, filter_runs_eq_self one,
                filter_runs_eq_nil one Callback.noConfusion, List.append_nil,
                List.append_nil, stored]
              simp only [runCallback, Store.setPiccolo, Function.update_self]
              exact .read (state.coreSystem wiring pushes)
                (conserves.completions_lt noRead found runs)
            · have spare : SpareBurst wiring request.burst := by
                rw [SpareBurst, runs]
                exact ⟨fun same => isReply (Option.some.inj same),
                  fun same => isRead (Option.some.inj same)⟩
              obtain ⟨core, piccolo⟩ := runCallback_of_spare state.store
                isReply isRead
              rw [← stored] at core piccolo
              exact .of_ignored stillExclusive core piccolo history
                (ignores_completionEvents spare slot)

omit exclusive in
/-- A turn is nothing for the system, or a step of its own. -/
theorem proceeds_turn
    (exclusive : state.Exclusive config wiring)
    {initial : Traffic M}
    (conserves : Conserves config initial state)
    (noReply : NoneOnTheWay config.attached.router
      (.loadReply wiring.core) initial)
    (noRead : NoneOnTheWay config.attached.router
      (.readComplete wiring.piccolo) initial)
    {after : RunState F M}
    (turn : Turn config state after) :
    Proceeds config wiring state after := by
  cases turn with
  | issue ref _ => exact proceeds_issue exclusive ref
  | deliver ref _ => exact proceeds_deliver exclusive ref
  | core vault ref isAttached =>
      by_cases own : ref = wiring.core
      · rw [own]
        exact proceeds_tickCore_own exclusive
      · exact proceeds_tickCore_other exclusive isAttached own
  | hardware store same =>
      exact proceeds_of_unseen exclusive
        (by rw [same.cores, same.piccolos, same.programs]) rfl
  | program ref inputs isAttached =>
      exact proceeds_advanceProgram exclusive isAttached inputs
  | logic router producer burst _ _ isLogic =>
      refine proceeds_route exclusive router producer ?_
      intro other member
      rw [List.mem_singleton.mp member]
      exact ⟨isLogic.notReply _, isLogic.notRead _⟩
  | locals _ _ _ _ => exact proceeds_of_unseen exclusive rfl rfl
  | @admission pcId burst rest used memory _ _ _ _ =>
      have history : (state.driver.acceptRead pcId burst memory).history =
          state.driver.history ++
            [.admitted pcId state.driver.nextSlot burst] := rfl
      refine .of_traffic exclusive rfl history ?_
      intro event member
      rw [List.mem_singleton.mp member]
      exact ignores_of_silent rfl rfl
  | memory _ => exact proceeds_of_unseen exclusive rfl rfl
  | complete slot =>
      exact proceeds_completeSlot exclusive conserves noReply noRead slot

omit exclusive in
/-- So are any number of turns. -/
theorem proceeds_turns
    (exclusive : state.Exclusive config wiring)
    {initial : Traffic M}
    (conserves : Conserves config initial state)
    (noReply : NoneOnTheWay config.attached.router
      (.loadReply wiring.core) initial)
    (noRead : NoneOnTheWay config.attached.router
      (.readComplete wiring.piccolo) initial)
    {after : RunState F M}
    (turns : Turns config state after) :
    Proceeds config wiring state after := by
  refine (turns.keeps (fun reached => Conserves config initial reached ∧
    Proceeds config wiring state reached) ?_
      ⟨conserves, .refl exclusive⟩).2
  rintro before after turn ⟨stillConserves, proceeds⟩
  exact ⟨stillConserves.turn turn, proceeds.trans
    (proceeds_turn proceeds.exclusive stillConserves noReply noRead turn)⟩

end Turns

end RunState

end PimGraphs
