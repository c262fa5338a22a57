import Mathlib.Logic.Relation
import PimGraphs.Compute.GatherFrame
import PimGraphs.Simulator.Timing

/-!
# What a cycle is made of

A cycle is a sequence of turns: of the attached controller, router, cores and
vertex program, of the logic layer that hands a burst of its own to the
router, of admission, and of the memory with the callbacks it fires.  What
every turn keeps holds in every state of a run.
-/

namespace PimGraphs

/-- Only arrays, feeders and accumulation units have changed. -/
structure Store.SameControl {F : Type} (before after : Store F) : Prop where
  cores : after.cores = before.cores
  routers : after.routers = before.routers
  piccolos : after.piccolos = before.piccolos
  programs : after.programs = before.programs

/-- A burst of the logic layer: a cache line that no core and no controller
waits for. -/
structure MemoryBurst.OfLogicLayer (burst : MemoryBurst) : Prop where
  sizeBytes : burst.sizeBytes = 64
  notReply : ∀ ref, burst.onComplete ≠ some (.loadReply ref)
  notRead : ∀ ref, burst.onComplete ≠ some (.readComplete ref)

namespace RunState

variable {F M : Type} [Zero F] [One F] [Add F] [Sub F] [Mul F] [Div F]
variable [NatCast F]

/-! ## The turn of a core -/

section Core

variable (config : RunConfig F M) (state : RunState F M) (ref : Nat)

/-- What the tick of a core returns. -/
def coreResult : SIMDCore.TickResult F :=
  (state.store.cores ref).tick config.ops ref
    (state.store.piccolos (state.store.cores ref).piccolo)
    ((state.store.cores ref).lentHardware state.store)

theorem cores_tickCore :
    (state.tickCore config ref).store.cores =
      Function.update state.store.cores ref
        (state.coreResult config ref).core :=
  SIMDCore.cores_installTick _ ref state.store _

theorem piccolos_tickCore :
    (state.tickCore config ref).store.piccolos =
      Function.update state.store.piccolos (state.store.cores ref).piccolo
        (state.coreResult config ref).piccolo :=
  SIMDCore.piccolos_installTick _ ref state.store _

theorem programs_tickCore :
    (state.tickCore config ref).store.programs = state.store.programs :=
  SIMDCore.programs_installTick _ ref state.store _

theorem driver_tickCore :
    (state.tickCore config ref).driver =
      state.driver.recordRouted (state.store.cores ref).router (.vpu ref)
        (state.coreResult config ref).request.toList :=
  rfl

theorem keeps_coreResult :
    SIMDCore.TickKeeps ref (state.store.cores ref)
      (state.store.piccolos (state.store.cores ref).piccolo)
      (state.coreResult config ref) :=
  SIMDCore.tickKeeps_tick config.ops ref _ _ _

end Core

/-! ## Turns -/

/-- One turn of a cycle. -/
inductive Turn (config : RunConfig F M) (state : RunState F M) :
    RunState F M → Prop
  | issue (ref : Nat) :
      config.attached.piccolo = some ref →
      Turn config state
        { state with
          store := state.store.setPiccolo ref
            ((state.store.piccolos ref).tickIssue ref).1
          driver := state.driver.enqueueAll none
            ((state.store.piccolos ref).tickIssue ref).2.toList }
  | deliver (ref : Nat) :
      config.attached.router = some ref →
      Turn config state
        { state with
          store := state.store.setRouter ref (state.store.routers ref).tick.1
          driver := state.driver.enqueueAll (some ref)
            (state.store.routers ref).tick.2 }
  | core (vault : Fin 16) (ref : Nat) :
      config.attached.vpus vault = some ref →
      Turn config state (state.tickCore config ref)
  | hardware (store : Store F) :
      state.store.SameControl store →
      Turn config state { state with store := store }
  | program (ref : Nat) (inputs : TreeInputs F) :
      config.attached.vertexProgram = some ref →
      Turn config state (state.advanceProgram config ref inputs)
  | logic (router : Nat) (producer : Producer) (burst : MemoryBurst) :
      config.attached.router = some router →
      config.attached.psau ≠ none ∨ config.attached.vertexProgram ≠ none →
      burst.OfLogicLayer →
      Turn config state (state.route router producer [burst])
  | locals (issued : Bool) (processed : Nat) (stats : VertexProgramStats)
      (cycles : Nat) :
      Turn config state
        { state with
          loadHIssued := issued
          verticesProcessed := processed
          vertexProgramStats := stats
          cycles := cycles }
  | admission {pcId : PcId} {burst : MemoryBurst} {rest : List MemoryBurst}
      {used : Nat} {memory : M} :
      (state.driver.mux.port pcId).pending = burst :: rest →
      state.driver.serialized config.admission burst = false →
      config.admission.overBudget used burst.bytes = false →
      config.admission.ramulator.send state.driver.memory burst.addr
        state.driver.nextSlot = some memory →
      Turn config state
        { state with driver := state.driver.acceptRead pcId burst memory }
  | memory (memory : M) :
      Turn config state
        { state with driver := { state.driver with memory := memory } }
  | complete (slot : Nat) :
      Turn config state (state.completeSlot slot)

/-- Some turns, one after the other. -/
abbrev Turns (config : RunConfig F M) :
    RunState F M → RunState F M → Prop :=
  Relation.ReflTransGen (Turn config)

variable (config : RunConfig F M) (state : RunState F M)

theorem turns_issuePiccolo :
    Turns config state (state.issuePiccolo config) := by
  unfold issuePiccolo
  cases isAttached : config.attached.piccolo with
  | none => exact .refl
  | some ref =>
      simp only
      split
      · exact .refl
      · exact .single (.issue ref isAttached)

theorem turns_tickRouter : Turns config state (state.tickRouter config) := by
  unfold tickRouter
  cases isAttached : config.attached.router with
  | none => exact .refl
  | some ref => exact .single (.deliver ref isAttached)

/-- The rest of a vault's turn, after that of its core. -/
theorem turns_of_tickCore
    (progress : RunState F M × TreeInputs F)
    {vault : Fin 16}
    {ref : Nat}
    (isAttached : config.attached.vpus vault = some ref) :
    Turns config (progress.1.tickCore config ref)
      (tickVault config progress vault).1 := by
  unfold tickVault
  rw [isAttached]
  simp only
  split
  · exact .single (.hardware _ ⟨rfl, rfl, rfl, rfl⟩)
  · exact .refl

theorem turns_tickVault
    (progress : RunState F M × TreeInputs F)
    (vault : Fin 16) :
    Turns config progress.1 (tickVault config progress vault).1 := by
  cases isAttached : config.attached.vpus vault with
  | none =>
      unfold tickVault
      rw [isAttached]
  | some ref =>
      exact (Relation.ReflTransGen.single (.core vault ref isAttached)).trans
        (turns_of_tickCore config progress isAttached)

theorem turns_tickVaults :
    Turns config state (state.tickVaults config).1 := by
  unfold tickVaults
  refine List.foldlRecOn
    (motive := fun progress : RunState F M × TreeInputs F =>
      Turns config state progress.1) _ _ .refl ?_
  intro progress reached vault _
  exact reached.trans (turns_tickVault config progress vault)

theorem turns_tickPsau (inputs : TreeInputs F) :
    Turns config state (state.tickPsau config inputs) := by
  unfold tickPsau
  cases isAttached : config.attached.psau with
  | none => exact .refl
  | some ref =>
      simp only
      have stored (unit : PartialSumAccumulationUnit F) :
          Turns config state
            { state with store := state.store.setPsau ref unit } :=
        .single (.hardware _ ⟨rfl, rfl, rfl, rfl⟩)
      split
      case h_1 router _ isRouter _ =>
        refine (stored _).tail (.logic router .psauWriteback psauWriteback
          isRouter (Or.inl ?_) ⟨rfl, ?_, ?_⟩)
        · rw [isAttached]
          exact Option.some_ne_none ref
        · exact fun _ => (Option.some_ne_none _).symm
        · exact fun _ => (Option.some_ne_none _).symm
      case h_2 => exact stored _

section VertexProgram

variable {ref : Nat} (isAttached : config.attached.vertexProgram = some ref)
include isAttached

theorem turns_requestHidden :
    Turns config state (state.requestHidden config ref) := by
  have attached : config.attached.vertexProgram ≠ none := by
    rw [isAttached]
    exact Option.some_ne_none ref
  unfold requestHidden
  cases isRouter : config.attached.router with
  | none => exact .refl
  | some router =>
      simp only
      split
      · refine (Relation.ReflTransGen.single (.logic router .hiddenLoad
          (hiddenLoad ref _) isRouter (Or.inr attached) ⟨rfl, ?_, ?_⟩)).tail
            (.locals true _ _ _)
        · intro other same
          exact Callback.noConfusion (Option.some.inj same)
        · intro other same
          exact Callback.noConfusion (Option.some.inj same)
      · exact .refl

theorem turns_writebackVertex :
    Turns config state (state.writebackVertex config ref) := by
  have attached : config.attached.vertexProgram ≠ none := by
    rw [isAttached]
    exact Option.some_ne_none ref
  unfold writebackVertex
  cases isRouter : config.attached.router with
  | none => exact .refl
  | some router =>
      simp only
      split
      · refine (Relation.ReflTransGen.single (.logic router .vertexWriteback
          (vertexWriteback _) isRouter (Or.inr attached) ⟨rfl, ?_, ?_⟩)).tail
            (.locals false _ _ _)
        · exact fun _ => (Option.some_ne_none _).symm
        · exact fun _ => (Option.some_ne_none _).symm
      · exact .refl

omit isAttached in
theorem turns_recordStats :
    Turns config state (state.recordStats ref) := by
  unfold recordStats
  split
  · exact .single (.locals _ _ _ _)
  · exact .refl

end VertexProgram

theorem turns_tickVertexProgram (inputs : TreeInputs F) :
    Turns config state (state.tickVertexProgram config inputs) := by
  unfold tickVertexProgram
  cases isAttached : config.attached.vertexProgram with
  | none => exact .refl
  | some ref =>
      have advanced : Turns config state
          (state.advanceProgram config ref inputs) :=
        .single (.program ref inputs isAttached)
      exact ((advanced.trans (turns_requestHidden config _ isAttached)).trans
        (turns_writebackVertex config _ isAttached)).trans
          (turns_recordStats config _)

theorem turns_runAdmission :
    Turns config state (state.runAdmission config) := by
  have admits := Driver.admits_admissionLoop config.admission state.driver
  unfold runAdmission
  generalize (state.driver.admissionLoop config.admission).driver = last
    at admits ⊢
  induction admits with
  | refl => exact .refl
  | acceptRead front allowed fits sent _ inductionHypothesis =>
      exact inductionHypothesis.tail (.admission front allowed fits sent)

theorem turns_tickMemory : Turns config state (state.tickMemory config) := by
  unfold tickMemory
  generalize config.admission.ramulator.tick state.driver.memory = ticked
  refine List.foldlRecOn (motive := Turns config state) _ _
    (.single (.memory ticked.1)) ?_
  intro reached before slot _
  exact before.tail (.complete slot)

/-! ## The turns of a cycle -/

/-- The turns that are left of a cycle when admission begins. -/
theorem turns_of_components :
    Turns config (state.tickComponents config) (state.cycle config) :=
  ((turns_runAdmission config _).trans (turns_tickMemory config _)).tail
    (.locals _ _ _ _)

theorem turns_of_vaults :
    Turns config
      (((state.issuePiccolo config).tickRouter config).tickVaults config).1
      (state.cycle config) :=
  ((turns_tickPsau config _ _).trans
    (turns_tickVertexProgram config _ _)).trans (turns_of_components config _)

theorem turns_of_router :
    Turns config ((state.issuePiccolo config).tickRouter config)
      (state.cycle config) :=
  (turns_tickVaults config _).trans (turns_of_vaults config state)

theorem turns_of_issue :
    Turns config (state.issuePiccolo config) (state.cycle config) :=
  (turns_tickRouter config _).trans (turns_of_router config state)

/-- A cycle is made of turns. -/
theorem turns_cycle : Turns config state (state.cycle config) :=
  (turns_issuePiccolo config state).trans (turns_of_issue config state)

/-- The turns before admission. -/
theorem turns_tickComponents :
    Turns config state (state.tickComponents config) :=
  (((turns_issuePiccolo config state).trans
    (turns_tickRouter config _)).trans (turns_tickVaults config _)).trans
      ((turns_tickPsau config _ _).trans (turns_tickVertexProgram config _ _))

/-- In every cycle there is a turn for each attached core. -/
theorem exists_turn_of_attached
    {vault : Fin 16}
    {ref : Nat}
    (isAttached : config.attached.vpus vault = some ref) :
    ∃ reached, Turns config state reached ∧
      Turns config (reached.tickCore config ref) (state.cycle config) := by
  obtain ⟨earlier, later, split⟩ :=
    List.append_of_mem (List.mem_finRange vault)
  let start : RunState F M × TreeInputs F :=
    ((state.issuePiccolo config).tickRouter config,
      { vectors := 0, valid := false })
  let reached := earlier.foldl (tickVault config) start
  have folded (progress : RunState F M × TreeInputs F)
      (vaults : List (Fin 16)) :
      Turns config progress.1
        (vaults.foldl (tickVault config) progress).1 :=
    List.foldlRecOn (motive := fun now : RunState F M × TreeInputs F =>
      Turns config progress.1 now.1) _ _ .refl
      fun now before vault _ => before.trans (turns_tickVault config now vault)
  have whole : ((state.issuePiccolo config).tickRouter config).tickVaults
      config = later.foldl (tickVault config)
        (tickVault config reached vault) := by
    rw [tickVaults, split, List.foldl_append, List.foldl_cons]
  refine ⟨reached.1, ?_, ?_⟩
  · exact ((turns_issuePiccolo config state).trans
      (turns_tickRouter config _)).trans (folded start earlier)
  · refine ((turns_of_tickCore config reached isAttached).trans
      (folded _ later)).trans ?_
    rw [← whole]
    exact turns_of_vaults config state

variable {config state}

/-- What every turn keeps holds after any number of turns. -/
theorem Turns.keeps
    {last : RunState F M}
    (turns : Turns config state last)
    (kept : RunState F M → Prop)
    (turn : ∀ before after, Turn config before after → kept before →
      kept after)
    (holds : kept state) :
    kept last := by
  induction turns with
  | refl => exact holds
  | tail _ next inductionHypothesis => exact turn _ _ next inductionHypothesis

/-- Any number of cycles is made of turns. -/
theorem turns_clocked
    (config : RunConfig F M)
    (state : RunState F M)
    (time : Nat) :
    Turns config state (state.clocked config time) := by
  induction time with
  | zero => exact .refl
  | succ time inductionHypothesis =>
      rw [clocked_succ]
      exact inductionHypothesis.trans (turns_cycle config _)

/-- A turn loses and duplicates no burst. -/
theorem Conserves.turn
    {initial : Traffic M}
    (conserves : Conserves config initial state)
    {after : RunState F M}
    (turn : Turn config state after) :
    Conserves config initial after := by
  cases turn with
  | issue ref _ => exact conserves.of_moves (Moves.refl.enqueueAll _)
  | deliver ref isAttached =>
      exact conserves.of_moves (.deliver ref isAttached .refl)
  | core vault ref _ =>
      exact conserves.of_moves (tickCore_moves config .refl ref)
  | hardware store same =>
      rw [Conserves, traffic, same.routers]
      exact conserves
  | program ref inputs _ =>
      exact conserves.of_moves (advanceProgram_moves config .refl ref inputs)
  | logic router producer burst _ _ _ =>
      exact conserves.of_moves (.route router producer [burst] .refl)
  | locals _ _ _ _ => exact conserves
  | @admission pcId burst rest used memory front _ _ _ =>
      exact Conserved.acceptRead conserves front memory
  | memory _ => exact conserves
  | complete slot => exact conserves.completeSlot slot

theorem Conserves.turns
    {initial : Traffic M}
    (conserves : Conserves config initial state)
    {after : RunState F M}
    (turns : Turns config state after) :
    Conserves config initial after :=
  turns.keeps (Conserves config initial)
    (fun _ _ turn before => before.turn turn) conserves

end RunState

end PimGraphs
