import PimGraphs.Compute.Aggregation
import PimGraphs.Library.Sweep
import PimGraphs.Simulator.Defs

/-!
# The aggregated message of a vertex

With idle cores, and every vault's components attached to the simulator and
shared with the vertex program, a cycle of the simulator in the gather,
compute and drain phases is a cycle of the aggregation machine.  The message
the program enters the hidden-state load with is therefore the sum of one
column, and equals the reduction of all products only when the other columns
vanish.
-/

namespace PimGraphs

/-- The components of the sixteen vaults, the accumulation unit and the vertex
program, each vault with its own feeder, array and controller. -/
structure Hardware where
  cores : Fin 16 → Nat
  feeders : Fin 16 → Nat
  arrays : Fin 16 → Nat
  piccolos : Fin 16 → Nat
  psau : Nat
  program : Nat
  feeders_injective : Function.Injective feeders
  arrays_injective : Function.Injective arrays
  piccolos_injective : Function.Injective piccolos

namespace Hardware

/-- Everything attached to the simulator. -/
def attached (hardware : Hardware) (router piccolo : Option Nat) :
    Attached where
  vpus := fun vault => some (hardware.cores vault)
  feeders := fun vault => some (hardware.feeders vault)
  systolicArrays := fun vault => some (hardware.arrays vault)
  psau := some hardware.psau
  router := router
  piccolo := piccolo
  vertexProgram := some hardware.program

variable {F : Type}

/-- The vertex program was built on these components. -/
structure Drives
    (hardware : Hardware)
    (program : TGNVertexProgram F) : Prop where
  piccolos : program.piccolos = fun vault => some (hardware.piccolos vault)
  arrays : program.systolicArrays = fun vault => some (hardware.arrays vault)
  feeders : program.feeders = fun vault => some (hardware.feeders vault)
  psau : program.psau = hardware.psau

/-- The program is wired to the vaults and no core executes anything. -/
structure Ready (hardware : Hardware) (store : Store F) : Prop where
  drives : hardware.Drives (store.programs hardware.program)
  queues : ∀ vault,
    (store.cores (hardware.cores vault)).instructionQueue = []
  stalls : ∀ vault,
    (store.cores (hardware.cores vault)).isStalled = false

/-- The sixteen vaults' components are attached. -/
structure Vaults (hardware : Hardware) (attached : Attached) : Prop where
  vpus : attached.vpus = fun vault => some (hardware.cores vault)
  feeders : attached.feeders = fun vault => some (hardware.feeders vault)
  arrays : attached.systolicArrays = fun vault => some (hardware.arrays vault)

theorem vaults_attached
    (hardware : Hardware)
    (router piccolo : Option Nat) :
    hardware.Vaults (hardware.attached router piccolo) :=
  ⟨rfl, rfl, rfl⟩

/-- No core executes anything. -/
structure IdleCores (hardware : Hardware) (store : Store F) : Prop where
  queues : ∀ vault,
    (store.cores (hardware.cores vault)).instructionQueue = []
  stalls : ∀ vault,
    (store.cores (hardware.cores vault)).isStalled = false

theorem Ready.idleCores
    {hardware : Hardware}
    {store : Store F}
    (ready : hardware.Ready store) :
    hardware.IdleCores store :=
  ⟨ready.queues, ready.stalls⟩

/-- The feeder and array of a vault. -/
def path (hardware : Hardware) (store : Store F) (vault : Fin 16) :
    Datapath F where
  feeder := store.feeders (hardware.feeders vault)
  sa := store.arrays (hardware.arrays vault)

/-- The part of the store that the aggregation works on. -/
def aggregation (hardware : Hardware) (store : Store F) : Aggregation F where
  paths := hardware.path store
  unit := store.psaus hardware.psau
  phase := (store.programs hardware.program).phase
  computeCycles := (store.programs hardware.program).computeCycles
  psauFlushCount := (store.programs hardware.program).psauFlushCount
  partialSumInputs := (store.programs hardware.program).partialSumInputs
  aggregatedMessage := (store.programs hardware.program).aggregatedMessage

/-- The up to sixteen values a vault's data buffer holds, zero padded. -/
def gatheredVector [Zero F]
    (hardware : Hardware)
    (ops : FloatOps F)
    (store : Store F)
    (vault : Fin 16) : Vec16 F :=
  TGNVertexProgram.gatheredVec ops
    ((store.piccolos (hardware.piccolos vault)).db.contents.take 16)

/-- Whether all gathers are done. -/
def allDone (hardware : Hardware) (store : Store F) : Bool :=
  (List.finRange 16).all fun vault =>
    (store.piccolos (hardware.piccolos vault)).done

/-- The gathered vectors, once all gathers are done. -/
def gathered [Zero F]
    (hardware : Hardware)
    (ops : FloatOps F)
    (store : Store F) : Option (Fin 16 → Vec16 F) :=
  if hardware.allDone store then some (hardware.gatheredVector ops store)
  else none

/-! ## Changes to the store -/

section Changes

variable {hardware : Hardware}

/-- Everything the aggregation rests on besides the datapaths is the same. -/
structure SameBesidePaths (before after : Store F) : Prop where
  cores : after.cores = before.cores
  psaus : after.psaus = before.psaus
  piccolos : after.piccolos = before.piccolos
  programs : after.programs = before.programs

theorem SameBesidePaths.ready
    {before after : Store F}
    (same : SameBesidePaths before after)
    (ready : hardware.Ready before) :
    hardware.Ready after where
  drives := same.programs ▸ ready.drives
  queues := same.cores ▸ ready.queues
  stalls := same.cores ▸ ready.stalls

theorem SameBesidePaths.idleCores
    {before after : Store F}
    (same : SameBesidePaths before after)
    (idle : hardware.IdleCores before) :
    hardware.IdleCores after where
  queues := same.cores ▸ idle.queues
  stalls := same.cores ▸ idle.stalls

theorem SameBesidePaths.aggregation
    {before after : Store F}
    (same : SameBesidePaths before after) :
    hardware.aggregation after =
      { hardware.aggregation before with paths := hardware.path after } := by
  simp only [Hardware.aggregation, same.psaus, same.programs]

theorem gathered_of_piccolos
    [Zero F]
    {before after : Store F}
    (ops : FloatOps F)
    (same : after.piccolos = before.piccolos) :
    hardware.gathered ops after = hardware.gathered ops before := by
  have sameVectors : hardware.gatheredVector ops after =
      hardware.gatheredVector ops before := by
    funext vault
    simp only [gatheredVector, same]
  have sameDone : hardware.allDone after = hardware.allDone before := by
    simp only [allDone, same]
  simp only [gathered, sameDone, sameVectors]

theorem aggregation_setPsau
    (store : Store F)
    (unit : PartialSumAccumulationUnit F) :
    hardware.aggregation (store.setPsau hardware.psau unit) =
      { hardware.aggregation store with unit := unit } := by
  simp only [aggregation, Store.setPsau, Function.update_self]
  rfl

theorem path_setPath
    (store : Store F)
    (vault other : Fin 16)
    (path : Datapath F) :
    hardware.path ((store.setFeeder (hardware.feeders vault)
        path.feeder).setArray (hardware.arrays vault) path.sa) other =
      if other = vault then path else hardware.path store other := by
  split
  case isTrue same =>
    simp [Hardware.path, Store.setFeeder, Store.setArray, same]
  case isFalse differs =>
    have otherFeeder : hardware.feeders other ≠ hardware.feeders vault :=
      fun same => differs (hardware.feeders_injective same)
    have otherArray : hardware.arrays other ≠ hardware.arrays vault :=
      fun same => differs (hardware.arrays_injective same)
    simp [Hardware.path, Store.setFeeder, Store.setArray, otherFeeder,
      otherArray]

/-- A step that leaves alone what the aggregation rests on. -/
structure Undisturbed (hardware : Hardware) (before after : Store F) : Prop
    where
  aggregation : hardware.aggregation after = hardware.aggregation before
  ready : hardware.Ready before → hardware.Ready after

theorem Undisturbed.refl (store : Store F) : Undisturbed hardware store store :=
  ⟨rfl, id⟩

theorem Undisturbed.trans
    {first middle last : Store F}
    (before : Undisturbed hardware first middle)
    (after : Undisturbed hardware middle last) :
    Undisturbed hardware first last :=
  ⟨after.aggregation.trans before.aggregation, after.ready ∘ before.ready⟩

/-- Routers and controllers are not part of the aggregation. -/
theorem undisturbed_setRouter
    (store : Store F)
    (ref : Nat)
    (router : HierarchicalRouter) :
    Undisturbed hardware store (store.setRouter ref router) :=
  ⟨rfl, fun ready => ⟨ready.drives, ready.queues, ready.stalls⟩⟩

theorem undisturbed_setPiccolo
    (store : Store F)
    (ref : Nat)
    (controller : PiccoloGatherController) :
    Undisturbed hardware store (store.setPiccolo ref controller) :=
  ⟨rfl, fun ready => ⟨ready.drives, ready.queues, ready.stalls⟩⟩

/-- A memory reply does not wake a core that is not stalled. -/
theorem undisturbed_setCore
    (store : Store F)
    (ref : Nat)
    (burstData : List F) :
    Undisturbed hardware store
      (store.setCore ref ((store.cores ref).onMemoryReply burstData)) := by
  refine ⟨rfl, fun ready => ?_⟩
  have sameCores (vault : Fin 16) :
      (store.setCore ref ((store.cores ref).onMemoryReply burstData)).cores
        (hardware.cores vault) = store.cores (hardware.cores vault) := by
    by_cases own : hardware.cores vault = ref
    · have ignored : (store.cores ref).onMemoryReply burstData =
          store.cores ref := by
        rw [SIMDCore.onMemoryReply, ← own, ready.stalls vault]
        rfl
      simp [Store.setCore, ignored]
    · simp [Store.setCore, own]
  refine ⟨ready.drives, fun vault => ?_, fun vault => ?_⟩
  · rw [sameCores, ready.queues]
  · rw [sameCores, ready.stalls]

/-- The hidden state is not part of the aggregation. -/
theorem undisturbed_deliverHidden
    (store : Store F)
    (ref : Nat)
    (payload : Vec16 F) :
    Undisturbed hardware store
      (store.setProgram ref
        ((store.programs ref).deliverHidden payload)) := by
  by_cases own : hardware.program = ref
  · subst own
    refine ⟨?_, fun ready => ⟨?_, ready.queues, ready.stalls⟩⟩
    · simp [aggregation, Store.setProgram, TGNVertexProgram.deliverHidden]
      rfl
    · have drives := ready.drives
      simp only [Store.setProgram, Function.update_self]
      exact ⟨drives.piccolos, drives.arrays, drives.feeders, drives.psau⟩
  · have same : (store.setProgram ref ((store.programs ref).deliverHidden
        payload)).programs hardware.program =
          store.programs hardware.program := by
      simp [Store.setProgram, own]
    refine ⟨?_, fun ready => ⟨same ▸ ready.drives, ready.queues,
      ready.stalls⟩⟩
    simp only [aggregation, same]
    rfl

/-- The aggregation with an updated program. -/
theorem aggregation_setProgram
    (store : Store F)
    (program : TGNVertexProgram F) :
    hardware.aggregation (store.setProgram hardware.program program) =
      { paths := hardware.path store
        unit := store.psaus hardware.psau
        phase := program.phase
        computeCycles := program.computeCycles
        psauFlushCount := program.psauFlushCount
        partialSumInputs := program.partialSumInputs
        aggregatedMessage := program.aggregatedMessage } := by
  simp only [aggregation, Store.setProgram, Function.update_self]
  rfl

theorem ready_setProgram
    {before after : Store F}
    (sameCores : after.cores = before.cores)
    (ready : hardware.Ready before)
    {program : TGNVertexProgram F}
    (drives : hardware.Drives program) :
    hardware.Ready (after.setProgram hardware.program program) where
  drives := by
    simp only [Store.setProgram, Function.update_self]
    exact drives
  queues := by
    simp only [Store.setProgram, sameCores]
    exact ready.queues
  stalls := by
    simp only [Store.setProgram, sameCores]
    exact ready.stalls

end Changes

end Hardware

namespace Hardware

/-! ## The program's part of a cycle -/

section Program

variable {F : Type} [Field F] {hardware : Hardware}
  {program : TGNVertexProgram F} (drives : hardware.Drives program)

include drives

theorem clockVault_eq (store : Store F) (vault : Fin 16) :
    program.clockVault store vault =
      (store.setFeeder (hardware.feeders vault)
        (hardware.path store vault).tick.2.feeder).setArray
          (hardware.arrays vault) (hardware.path store vault).tick.2.sa := by
  unfold TGNVertexProgram.clockVault
  rw [drives.arrays, drives.feeders]
  rfl

theorem local_clockVault (store : Store F) :
    Sweep.Local program.clockVault
      (fun reached => SameBesidePaths store reached)
      hardware.path fun _ path => path.tick.2 where
  keeps := fun reached vault same => by
    rw [clockVault_eq drives]
    exact ⟨same.cores, same.psaus, same.piccolos, same.programs⟩
  own := fun reached vault _ => by
    rw [clockVault_eq drives, path_setPath, if_pos rfl]
  others := fun reached vault other _ differs => by
    rw [clockVault_eq drives, path_setPath, if_neg differs]

/-- Clocking all vaults moves every datapath one tick on. -/
theorem path_clockVaults (store : Store F) :
    SameBesidePaths store ((List.finRange 16).foldl program.clockVault store) ∧
      hardware.path ((List.finRange 16).foldl program.clockVault store) =
        fun vault => (hardware.path store vault).tick.2 := by
  have turns := local_clockVault drives store
  have atStart : SameBesidePaths store store := ⟨rfl, rfl, rfl, rfl⟩
  exact ⟨turns.condition_foldl (List.finRange 16) atStart, funext fun vault =>
    turns.view_foldl (List.nodup_finRange 16) (List.mem_finRange vault) store
      atStart⟩

/-- A cycle that computes. -/
theorem aggregation_tickGenUpdateCompute
    (store : Store F)
    (current :
      hardware.aggregation (store.setProgram hardware.program program) =
        hardware.aggregation store)
    (saOutputs : Fin 16 → Vec16 F) :
    hardware.aggregation
        ((program.tickGenUpdateCompute store saOutputs).2.setProgram
          hardware.program
          (program.tickGenUpdateCompute store saOutputs).1) =
        (hardware.aggregation store).compute saOutputs ∧
      (program.tickGenUpdateCompute store saOutputs).2.cores = store.cores ∧
      hardware.Drives (program.tickGenUpdateCompute store saOutputs).1 := by
  have counted : hardware.Drives
      { program with computeCycles := program.computeCycles + 1 } :=
    ⟨drives.piccolos, drives.arrays, drives.feeders, drives.psau⟩
  obtain ⟨same, paths⟩ := path_clockVaults counted store
  rw [current.symm.trans (aggregation_setProgram store program)]
  unfold TGNVertexProgram.tickGenUpdateCompute
  rcases Nat.lt_or_ge (program.computeCycles + 1) 16 with early | last
  · rw [if_neg (Nat.not_le_of_lt early), Aggregation.compute_of_lt _ _ early]
    refine ⟨(aggregation_setProgram _ _).trans ?_, same.cores, counted⟩
    exact Aggregation.ext paths (congrFun same.psaus _) rfl rfl rfl rfl rfl
  · rw [if_pos last, Aggregation.compute_of_le _ _ last]
    refine ⟨(aggregation_setProgram _ _).trans ?_, same.cores,
      ⟨drives.piccolos, drives.arrays, drives.feeders, drives.psau⟩⟩
    exact Aggregation.ext paths (congrFun same.psaus _) rfl rfl rfl rfl rfl

omit drives in
/-- The two ways out of the drain accept the same message. -/
theorem tickPsauDrain_eq (store : Store F) :
    program.tickPsauDrain store =
      let ticked := (store.psaus program.psau).tick program.partialSumInputs
        (decide (program.psauFlushCount = 0))
      let flushed : TGNVertexProgram F :=
        { program with
          psauCycles := program.psauCycles + 1
          psauFlushCount := program.psauFlushCount + 1 }
      (if ticked.1 ∨ TGNVertexProgram.kPSAUDepth + 2 < flushed.psauFlushCount
        then flushed.acceptMessage ticked.2.1 else flushed,
        store.setPsau program.psau ticked.2.2) := by
  simp only [TGNVertexProgram.tickPsauDrain]
  split
  case isTrue valid => rw [if_pos (Or.inl valid)]
  case isFalse invalid =>
    split
    case isTrue late => rw [if_pos (Or.inr late)]
    case isFalse early => rw [if_neg (not_or.mpr ⟨invalid, early⟩)]

/-- A cycle that drains the accumulation unit. -/
theorem aggregation_tickPsauDrain
    (store : Store F)
    (current :
      hardware.aggregation (store.setProgram hardware.program program) =
        hardware.aggregation store) :
    hardware.aggregation
        ((program.tickPsauDrain store).2.setProgram hardware.program
          (program.tickPsauDrain store).1) =
        (hardware.aggregation store).drain ∧
      (program.tickPsauDrain store).2.cores = store.cores ∧
      hardware.Drives (program.tickPsauDrain store).1 := by
  rw [current.symm.trans (aggregation_setProgram store program),
    tickPsauDrain_eq, aggregation_setProgram]
  simp only [Aggregation.drain, drives.psau]
  split
  case isTrue _ =>
    refine ⟨?_, rfl, ⟨drives.piccolos, drives.arrays, drives.feeders, rfl⟩⟩
    simp only [Store.setPsau, Function.update_self]
    rfl
  case isFalse _ =>
    refine ⟨?_, rfl, ⟨drives.piccolos, drives.arrays, drives.feeders, rfl⟩⟩
    simp only [Store.setPsau, Function.update_self]
    rfl

/-! ### The gather -/

/-- A vault's controller and datapath. -/
def vaultStore (hardware : Hardware) (store : Store F) (vault : Fin 16) :
    PiccoloGatherController × Datapath F :=
  (store.piccolos (hardware.piccolos vault), hardware.path store vault)

/-- Everything the aggregation rests on besides the vaults is the same. -/
structure SameBesideVaults (before after : Store F) : Prop where
  cores : after.cores = before.cores
  psaus : after.psaus = before.psaus
  programs : after.programs = before.programs

omit [Field F] in
theorem issueVault_eq
    (state : Store F × List MemoryBurst × Bool)
    (vault : Fin 16) :
    program.issueVault state vault =
      (state.1.setPiccolo (hardware.piccolos vault)
          ((state.1.piccolos (hardware.piccolos vault)).tickIssue
            (hardware.piccolos vault)).1,
        state.2.1 ++ ((state.1.piccolos (hardware.piccolos vault)).tickIssue
          (hardware.piccolos vault)).2.toList,
        state.2.2 && (state.1.piccolos (hardware.piccolos vault)).done) := by
  rw [← PiccoloGatherController.done_tickIssue _ (hardware.piccolos vault)]
  unfold TGNVertexProgram.issueVault
  rw [drives.piccolos]

omit [Field F] drives in
theorem piccolos_setPiccolo
    (store : Store F)
    (vault other : Fin 16)
    (controller : PiccoloGatherController) :
    (store.setPiccolo (hardware.piccolos vault) controller).piccolos
        (hardware.piccolos other) =
      if other = vault then controller
      else store.piccolos (hardware.piccolos other) := by
  simp only [Store.setPiccolo, Function.update_apply,
    hardware.piccolos_injective.eq_iff]

omit [Field F] in
theorem local_issueVault (store : Store F) :
    Sweep.Local program.issueVault
      (fun reached : Store F × List MemoryBurst × Bool =>
        SameBesideVaults store reached.1)
      (fun reached => vaultStore hardware reached.1)
      fun vault seen => ((seen.1.tickIssue (hardware.piccolos vault)).1,
        seen.2) where
  keeps := fun reached vault same => by
    rw [issueVault_eq drives]
    exact ⟨same.cores, same.psaus, same.programs⟩
  own := fun reached vault _ => by
    rw [issueVault_eq drives]
    simp only [vaultStore, piccolos_setPiccolo, if_true]
    rfl
  others := fun reached vault other _ differs => by
    rw [issueVault_eq drives]
    simp only [vaultStore, piccolos_setPiccolo, if_neg differs]
    rfl

theorem drainVault_eq
    (ops : FloatOps F)
    (store : Store F)
    (vault : Fin 16) :
    program.drainVault ops store vault =
      (store.setPiccolo (hardware.piccolos vault)
        (TGNVertexProgram.takeValues 16
          (store.piccolos (hardware.piccolos vault))).2).setFeeder
        (hardware.feeders vault)
        ((hardware.path store vault).push (some
          (TGNVertexProgram.gatheredVec ops
            ((store.piccolos (hardware.piccolos vault)).db.contents.take
              16)))).feeder := by
  rw [← TGNVertexProgram.takeValues_fst]
  unfold TGNVertexProgram.drainVault
  rw [drives.feeders, drives.piccolos]
  rfl

omit [Field F] drives in
theorem path_setFeeder
    (store : Store F)
    (vault other : Fin 16)
    (feeder : ArrayFeeder F) :
    hardware.path (store.setFeeder (hardware.feeders vault) feeder) other =
      if other = vault then
        { hardware.path store vault with feeder := feeder }
      else hardware.path store other := by
  split
  case isTrue same => simp [path, Store.setFeeder, same]
  case isFalse differs =>
    simp [path, Store.setFeeder, hardware.feeders_injective.eq_iff, differs]

theorem local_drainVault (ops : FloatOps F) (store : Store F) :
    Sweep.Local (program.drainVault ops)
      (fun reached => SameBesideVaults store reached)
      (vaultStore hardware)
      fun _ seen => ((TGNVertexProgram.takeValues 16 seen.1).2,
        seen.2.push (some (TGNVertexProgram.gatheredVec ops
          (seen.1.db.contents.take 16)))) where
  keeps := fun reached vault same => by
    rw [drainVault_eq drives]
    exact ⟨same.cores, same.psaus, same.programs⟩
  own := fun reached vault _ => by
    rw [drainVault_eq drives, vaultStore, path_setFeeder, if_pos rfl]
    exact congrArg (fun controller => (controller, _))
      ((piccolos_setPiccolo reached vault vault _).trans (if_pos rfl))
  others := fun reached vault other _ differs => by
    rw [drainVault_eq drives, vaultStore, path_setFeeder, if_neg differs]
    exact congrArg (fun controller => (controller, _))
      ((piccolos_setPiccolo reached vault other _).trans (if_neg differs))

omit [Field F] in
/-- Issuing for all vaults leaves their datapaths and gathered values alone and
finds out whether all gathers are done. -/
theorem issueVaults_eq (store : Store F) :
    SameBesideVaults store
        ((List.finRange 16).foldl program.issueVault (store, [], true)).1 ∧
      (∀ vault, vaultStore hardware
          ((List.finRange 16).foldl program.issueVault (store, [], true)).1
            vault =
        (((store.piccolos (hardware.piccolos vault)).tickIssue
          (hardware.piccolos vault)).1, hardware.path store vault)) ∧
      ((List.finRange 16).foldl program.issueVault (store, [], true)).2.2 =
        hardware.allDone store := by
  have turns := local_issueVault drives store
  have atStart : SameBesideVaults store store := ⟨rfl, rfl, rfl⟩
  have flag := turns.flag_foldl (fun reached => !reached.2.2)
    (fun _ seen => !seen.1.done)
    (fun reached vault _ => by
      rw [issueVault_eq drives]
      exact Bool.not_and _ _)
    (List.nodup_finRange 16) (store, [], true) atStart
  refine ⟨turns.condition_foldl (List.finRange 16) atStart, fun vault =>
    turns.view_foldl (List.nodup_finRange 16) (List.mem_finRange vault)
      (store, [], true) atStart, ?_⟩
  rw [← Bool.not_inj_iff]
  apply flag.trans
  rw [allDone, List.not_all_eq_any_not]
  rfl

omit [Field F] in
/-- Issuing leaves the datapaths alone. -/
theorem path_issueVaults (store : Store F) :
    hardware.path
        ((List.finRange 16).foldl program.issueVault (store, [], true)).1 =
      hardware.path store :=
  funext fun vault =>
    congrArg Prod.snd ((issueVaults_eq drives store).2.1 vault)

/-- Issuing leaves the gathered values alone. -/
theorem gatheredVector_issueVaults (ops : FloatOps F) (store : Store F) :
    hardware.gatheredVector ops
        ((List.finRange 16).foldl program.issueVault (store, [], true)).1 =
      hardware.gatheredVector ops store := by
  funext vault
  have sameController :=
    congrArg Prod.fst ((issueVaults_eq drives store).2.1 vault)
  simp only [vaultStore] at sameController
  rw [gatheredVector, sameController, PiccoloGatherController.db_tickIssue,
    gatheredVector]

/-- Draining all vaults pushes every gathered vector into its datapath. -/
theorem drainVaults_eq (ops : FloatOps F) (store : Store F) :
    SameBesideVaults store
        ((List.finRange 16).foldl (program.drainVault ops) store) ∧
      hardware.path
          ((List.finRange 16).foldl (program.drainVault ops) store) =
        fun vault => (hardware.path store vault).push
          (some (hardware.gatheredVector ops store vault)) := by
  have turns := local_drainVault drives ops store
  have atStart : SameBesideVaults store store := ⟨rfl, rfl, rfl⟩
  exact ⟨turns.condition_foldl (List.finRange 16) atStart, funext fun vault =>
    congrArg Prod.snd (turns.view_foldl (List.nodup_finRange 16)
      (List.mem_finRange vault) store atStart)⟩

/-- A cycle that gathers. -/
theorem aggregation_tickGenUpdateGather
    (ops : FloatOps F)
    (store : Store F)
    (current :
      hardware.aggregation (store.setProgram hardware.program program) =
        hardware.aggregation store)
    (gathering : program.phase = .genUpdateGather)
    (saOutputs : Fin 16 → Vec16 F) :
    hardware.aggregation
        ((program.tickGenUpdateGather ops store).2.1.setProgram
          hardware.program (program.tickGenUpdateGather ops store).1) =
        (hardware.aggregation store).advance saOutputs
          (hardware.gathered ops store) ∧
      (program.tickGenUpdateGather ops store).2.1.cores = store.cores ∧
      hardware.Drives (program.tickGenUpdateGather ops store).1 := by
  have counted : hardware.Drives
      { program with gatherCycles := program.gatherCycles + 1 } :=
    ⟨drives.piccolos, drives.arrays, drives.feeders, drives.psau⟩
  obtain ⟨issued, -, allDone⟩ := issueVaults_eq counted store
  have samePaths := path_issueVaults counted store
  rw [current.symm.trans (aggregation_setProgram store program),
    Aggregation.advance_gathering _ gathering]
  unfold TGNVertexProgram.tickGenUpdateGather
  simp only [allDone, gathered]
  cases hardware.allDone store
  case false =>
    refine ⟨(aggregation_setProgram _ _).trans ?_, issued.cores, counted⟩
    exact Aggregation.ext samePaths (congrFun issued.psaus _) rfl rfl rfl rfl
      rfl
  case true =>
    obtain ⟨drained, pushed⟩ := drainVaults_eq counted ops _
    rw [samePaths, gatheredVector_issueVaults counted] at pushed
    refine ⟨(aggregation_setProgram _ _).trans ?_,
      drained.cores.trans issued.cores,
      ⟨drives.piccolos, drives.arrays, drives.feeders, drives.psau⟩⟩
    exact Aggregation.ext pushed
      (congrFun (drained.psaus.trans issued.psaus) _) rfl rfl rfl rfl rfl

end Program

/-- The phases before the hidden-state load. -/
def BeforeLoad {F : Type} (state : Aggregation F) : Prop :=
  state.phase = .genUpdateGather ∨ GatheredVertex.Underway state

/-- The program's tick is its part of a cycle of the aggregation. -/
theorem aggregation_tick
    {F : Type}
    [Field F]
    {hardware : Hardware}
    (ops : FloatOps F)
    {store : Store F}
    (ready : hardware.Ready store)
    (early : BeforeLoad (hardware.aggregation store))
    (saOutputs : Fin 16 → Vec16 F) :
    let ticked :=
      (store.programs hardware.program).tick ops store saOutputs
    hardware.aggregation (ticked.2.1.setProgram hardware.program ticked.1) =
        (hardware.aggregation store).advance saOutputs
          (hardware.gathered ops store) ∧
      hardware.Ready (ticked.2.1.setProgram hardware.program ticked.1) := by
  have drives : hardware.Drives
      (store.programs hardware.program).countCycle :=
    ⟨ready.drives.piccolos, ready.drives.arrays, ready.drives.feeders,
      ready.drives.psau⟩
  have current : hardware.aggregation (store.setProgram hardware.program
      (store.programs hardware.program).countCycle) =
        hardware.aggregation store :=
    aggregation_setProgram _ _
  simp only
  unfold TGNVertexProgram.tick
  rcases early with gathering | computing | draining
  · have phase : (store.programs hardware.program).phase =
        .genUpdateGather := gathering
    obtain ⟨same, cores, drivesNext⟩ := aggregation_tickGenUpdateGather
      drives ops store current gathering saOutputs
    simp only [phase]
    exact ⟨same, ready_setProgram cores ready drivesNext⟩
  · have phase : (store.programs hardware.program).phase =
        .genUpdateCompute := computing
    obtain ⟨same, cores, drivesNext⟩ := aggregation_tickGenUpdateCompute
      drives store current saOutputs
    simp only [phase]
    rw [Aggregation.advance_computing _ computing]
    exact ⟨same, ready_setProgram cores ready drivesNext⟩
  · have phase : (store.programs hardware.program).phase =
        .genUpdatePsauDrain := draining
    obtain ⟨same, cores, drivesNext⟩ := aggregation_tickPsauDrain drives store
      current
    simp only [phase]
    rw [Aggregation.advance_draining _ draining]
    exact ⟨same, ready_setProgram cores ready drivesNext⟩

/-- The GRU ticks of the vaults keep the wiring and the cores. -/
theorem gruVaults_keep
    {F : Type}
    [Field F]
    {hardware : Hardware}
    (ops : FloatOps F)
    {program : TGNVertexProgram F}
    (drives : hardware.Drives program)
    (store : Store F) :
    let ticked := (List.finRange 16).foldl (TGNVertexProgram.gruVault ops)
      (program, store, 0)
    hardware.Drives ticked.1 ∧ ticked.2.1.cores = store.cores := by
  refine List.foldlRecOn
    (motive := fun reached : TGNVertexProgram F × Store F × Nat =>
      hardware.Drives reached.1 ∧ reached.2.1.cores = store.cores)
    _ _ ⟨drives, rfl⟩ ?_
  rintro ⟨reached, reachedStore, doneCount⟩ ⟨stillDrives, sameCores⟩ vault _
  unfold TGNVertexProgram.gruVault
  simp only
  split
  · split
    · exact ⟨stillDrives, sameCores⟩
    · exact ⟨⟨stillDrives.piccolos, stillDrives.arrays, stillDrives.feeders,
        stillDrives.psau⟩, sameCores⟩
  · exact ⟨stillDrives, sameCores⟩

theorem tickGru_keeps
    {F : Type}
    [Field F]
    {hardware : Hardware}
    (ops : FloatOps F)
    {program : TGNVertexProgram F}
    (drives : hardware.Drives program)
    (store : Store F) :
    hardware.Drives (program.tickGru ops store).1 ∧
      (program.tickGru ops store).2.cores = store.cores := by
  have counted : hardware.Drives
      { program with gruCycles := program.gruCycles + 1 } :=
    ⟨drives.piccolos, drives.arrays, drives.feeders, drives.psau⟩
  obtain ⟨stillDrives, sameCores⟩ := gruVaults_keep ops counted store
  unfold TGNVertexProgram.tickGru
  simp only
  split
  · exact ⟨stillDrives, sameCores⟩
  · exact ⟨⟨stillDrives.piccolos, stillDrives.arrays, stillDrives.feeders,
      stillDrives.psau⟩, sameCores⟩

/-- In no phase does the program rewire anything or start a core. -/
theorem ready_tick
    {F : Type}
    [Field F]
    {hardware : Hardware}
    (ops : FloatOps F)
    {store : Store F}
    (ready : hardware.Ready store)
    (saOutputs : Fin 16 → Vec16 F) :
    let ticked :=
      (store.programs hardware.program).tick ops store saOutputs
    hardware.Ready (ticked.2.1.setProgram hardware.program ticked.1) := by
  by_cases early : BeforeLoad (hardware.aggregation store)
  · exact (aggregation_tick ops ready early saOutputs).2
  have drives := ready.drives
  have counted : hardware.Drives
      (store.programs hardware.program).countCycle :=
    ⟨drives.piccolos, drives.arrays, drives.feeders, drives.psau⟩
  simp only
  unfold TGNVertexProgram.tick
  cases phase : (store.programs hardware.program).phase with
  | idle => exact ready_setProgram rfl ready drives
  | done => exact ready_setProgram rfl ready drives
  | genUpdateGather => exact absurd (Or.inl phase) early
  | genUpdateCompute => exact absurd (Or.inr (Or.inl phase)) early
  | genUpdatePsauDrain => exact absurd (Or.inr (Or.inr phase)) early
  | applyUpdateLoadH =>
      apply ready_setProgram rfl ready
      unfold TGNVertexProgram.tickLoadHiddenState
      simp only
      split
      · exact ⟨drives.piccolos, drives.arrays, drives.feeders, drives.psau⟩
      · exact ⟨drives.piccolos, drives.arrays, drives.feeders, drives.psau⟩
  | applyUpdateGru =>
      obtain ⟨stillDrives, sameCores⟩ := tickGru_keeps ops counted store
      exact ready_setProgram sameCores ready stillDrives
  | writeback =>
      exact ready_setProgram rfl ready
        ⟨drives.piccolos, drives.arrays, drives.feeders, drives.psau⟩

end Hardware

namespace RunState

open Hardware

variable {F M : Type} {hardware : Hardware} {config : RunConfig F M}

/-! ## The other components -/

section Components

theorem undisturbed_issuePiccolo (state : RunState F M) :
    Undisturbed hardware state.store (state.issuePiccolo config).store := by
  unfold issuePiccolo
  split
  · exact .refl _
  · split
    · exact .refl _
    · exact undisturbed_setPiccolo _ _ _

/-- Issuing for another controller's batch gathers nothing. -/
theorem gathered_issuePiccolo [Zero F] (state : RunState F M) :
    hardware.gathered config.ops (state.issuePiccolo config).store =
      hardware.gathered config.ops state.store := by
  unfold issuePiccolo
  split
  case h_1 _ => rfl
  case h_2 ref _ =>
    split
    case isTrue _ => rfl
    case isFalse _ =>
      have same (vault : Fin 16) :
          ((state.store.setPiccolo ref ((state.store.piccolos ref).tickIssue
              ref).1).piccolos (hardware.piccolos vault)).db =
            (state.store.piccolos (hardware.piccolos vault)).db ∧
          ((state.store.setPiccolo ref ((state.store.piccolos ref).tickIssue
              ref).1).piccolos (hardware.piccolos vault)).done =
            (state.store.piccolos (hardware.piccolos vault)).done := by
        simp only [Store.setPiccolo, Function.update_apply]
        split
        case isTrue own =>
          rw [own]
          exact ⟨PiccoloGatherController.db_tickIssue _ _,
            PiccoloGatherController.done_tickIssue _ _⟩
        case isFalse _ => exact ⟨rfl, rfl⟩
      have sameDone : hardware.allDone (state.store.setPiccolo ref
          ((state.store.piccolos ref).tickIssue ref).1) =
            hardware.allDone state.store := by
        simp only [allDone, (same _).2]
      have sameVectors : hardware.gatheredVector config.ops
          (state.store.setPiccolo ref
            ((state.store.piccolos ref).tickIssue ref).1) =
              hardware.gatheredVector config.ops state.store := by
        funext vault
        simp only [gatheredVector, (same vault).1]
      simp only [gathered, sameDone, sameVectors]

theorem undisturbed_tickRouter (state : RunState F M) :
    Undisturbed hardware state.store (state.tickRouter config).store := by
  unfold tickRouter
  split
  · exact .refl _
  · exact undisturbed_setRouter _ _ _

theorem piccolos_tickRouter (state : RunState F M) :
    (state.tickRouter config).store.piccolos = state.store.piccolos := by
  unfold tickRouter
  split
  · rfl
  · rfl

theorem undisturbed_requestHidden (state : RunState F M) (ref : Nat) :
    Undisturbed hardware state.store
      (state.requestHidden config ref).store := by
  unfold requestHidden
  simp only
  split
  · exact .refl _
  · split
    · exact undisturbed_setRouter _ _ _
    · exact .refl _

theorem undisturbed_writebackVertex (state : RunState F M) (ref : Nat) :
    Undisturbed hardware state.store
      (state.writebackVertex config ref).store := by
  unfold writebackVertex
  simp only
  split
  · exact .refl _
  · split
    · exact undisturbed_setRouter _ _ _
    · exact .refl _

theorem undisturbed_recordStats (state : RunState F M) (ref : Nat) :
    Undisturbed hardware state.store (state.recordStats ref).store := by
  unfold recordStats
  split
  · exact .refl _
  · exact .refl _

end Components

variable [Field F] {router piccolo : Option Nat}

/-! ## The vaults -/

section Vaults

/-- Installing what is already there changes nothing. -/
theorem installTick_self (store : Store F) (ref : Nat) :
    (store.cores ref).installTick ref store
        { core := store.cores ref
          piccolo := store.piccolos (store.cores ref).piccolo
          gruHardware := (store.cores ref).lentHardware store } = store := by
  have sameCore : store.setCore ref (store.cores ref) = store := by
    simp [Store.setCore]
  have samePiccolo (piccolo : Nat) :
      store.setPiccolo piccolo (store.piccolos piccolo) = store := by
    simp [Store.setPiccolo]
  have sameHardware (sa feeder : Nat) :
      (store.setArray sa (store.arrays sa)).setFeeder feeder
        (store.feeders feeder) = store := by
    simp [Store.setArray, Store.setFeeder]
  unfold SIMDCore.installTick SIMDCore.lentHardware
  rw [sameCore, samePiccolo]
  cases (store.cores ref).gruSa with
  | none => rfl
  | some sa =>
      cases (store.cores ref).gruFeeder with
      | none => rfl
      | some feeder => exact sameHardware sa feeder

/-- The tick of an idle core changes nothing. -/
theorem tickCore_of_idle
    (state : RunState F M)
    (ref : Nat)
    (empty : (state.store.cores ref).instructionQueue = [])
    (notStalled : (state.store.cores ref).isStalled = false) :
    state.tickCore config ref = state := by
  have idle : (state.store.cores ref).tick config.ops ref
      (state.store.piccolos (state.store.cores ref).piccolo)
      ((state.store.cores ref).lentHardware state.store) =
        { core := state.store.cores ref
          piccolo := state.store.piccolos (state.store.cores ref).piccolo
          gruHardware :=
            (state.store.cores ref).lentHardware state.store } := by
    simp [SIMDCore.tick, notStalled, empty]
  simp only [tickCore, idle, installTick_self]
  simp [route, Store.setRouter, Driver.recordRouted]

/-- A vault's turn clocks its datapath and collects its outputs. -/
theorem tickVault_eq
    (vaults : hardware.Vaults config.attached)
    (progress : RunState F M × TreeInputs F)
    (vault : Fin 16)
    (idle : hardware.IdleCores progress.1.store) :
    tickVault config progress vault =
      ({ progress.1 with
          store := (progress.1.store.setFeeder (hardware.feeders vault)
            (hardware.path progress.1.store vault).tick.2.feeder).setArray
              (hardware.arrays vault)
              (hardware.path progress.1.store vault).tick.2.sa },
        { vectors := Function.update progress.2.vectors vault
            (hardware.path progress.1.store vault).tick.1
          valid := progress.2.valid ||
            (List.finRange 16).any fun lane => config.ops.isSignificant
              ((hardware.path progress.1.store vault).tick.1 lane) }) := by
  have unchanged : progress.1.tickCore config (hardware.cores vault) =
      progress.1 :=
    tickCore_of_idle progress.1 (hardware.cores vault) (idle.queues vault)
      (idle.stalls vault)
  unfold tickVault
  simp only [vaults.vpus, vaults.feeders, vaults.arrays, unchanged]
  rfl

/-- What a vault's turn sees of its vault. -/
def vaultView
    (hardware : Hardware)
    (progress : RunState F M × TreeInputs F)
    (vault : Fin 16) : Datapath F × Vec16 F :=
  (hardware.path progress.1.store vault, progress.2.vectors vault)

/-- A vault's turn clocks its own datapath only. -/
theorem local_tickVault
    (vaults : hardware.Vaults config.attached)
    {store : Store F}
    (idle : hardware.IdleCores store) :
    Sweep.Local (tickVault config)
      (fun progress : RunState F M × TreeInputs F =>
        SameBesidePaths store progress.1.store)
      (vaultView hardware)
      fun _ seen => (seen.1.tick.2, seen.1.tick.1) where
  keeps := fun progress vault same => by
    rw [tickVault_eq vaults progress vault (same.idleCores idle)]
    exact ⟨same.cores, same.psaus, same.piccolos, same.programs⟩
  own := fun progress vault same => by
    rw [tickVault_eq vaults progress vault (same.idleCores idle)]
    simp only [vaultView, path_setPath, if_true, Function.update_self]
  others := fun progress vault other same differs => by
    rw [tickVault_eq vaults progress vault (same.idleCores idle)]
    simp only [vaultView, path_setPath, if_neg differs,
      Function.update_of_ne differs]

/-- After all turns every datapath is one tick further, and what the arrays
have put out is collected. -/
theorem tickVaults_eq
    (vaults : hardware.Vaults config.attached)
    (state : RunState F M)
    (idle : hardware.IdleCores state.store) :
    SameBesidePaths state.store (state.tickVaults config).1.store ∧
      hardware.path (state.tickVaults config).1.store =
        (fun vault => (hardware.path state.store vault).tick.2) ∧
      (state.tickVaults config).2 =
        { vectors := fun vault => (hardware.path state.store vault).tick.1
          valid := Aggregation.anySignificant config.ops.isSignificant
            fun vault => (hardware.path state.store vault).tick.1 } := by
  let start : RunState F M × TreeInputs F :=
    (state, { vectors := 0, valid := false })
  have turns := local_tickVault (M := M) vaults idle
  have atStart : SameBesidePaths state.store start.1.store :=
    ⟨rfl, rfl, rfl, rfl⟩
  have seen (vault : Fin 16) := turns.view_foldl (List.nodup_finRange 16)
    (List.mem_finRange vault) start atStart
  have flag := turns.flag_foldl (fun progress => progress.2.valid)
    (fun _ seen => (List.finRange 16).any fun lane =>
      config.ops.isSignificant (seen.1.tick.1 lane))
    (fun progress vault same => by
      rw [tickVault_eq vaults progress vault (same.idleCores idle)]
      rfl)
    (List.nodup_finRange 16) start atStart
  refine ⟨turns.condition_foldl (List.finRange 16) atStart,
    funext fun vault => congrArg Prod.fst (seen vault), ?_⟩
  have vectors : (state.tickVaults config).2.vectors =
      fun vault => (hardware.path state.store vault).tick.1 :=
    funext fun vault => congrArg Prod.snd (seen vault)
  exact congrArg₂ TreeInputs.mk vectors (flag.trans (Bool.false_or _))

end Vaults

/-! ## The accumulation unit and the memory -/

/-- The store after the accumulation unit's tick. -/
theorem store_tickPsau
    (attached : config.attached = hardware.attached router piccolo)
    (state : RunState F M)
    (inputs : TreeInputs F) :
    (state.tickPsau config inputs).store =
      state.store.setPsau hardware.psau
        ((state.store.psaus hardware.psau).tick inputs.vectors
          inputs.valid).2.2 := by
  unfold tickPsau
  rw [attached]
  simp only [Hardware.attached]
  split
  · rename_i attachedProgram
    exact absurd attachedProgram (Option.some_ne_none _)
  · rfl

theorem undisturbed_runCallback (store : Store F) (callback : Callback) :
    Undisturbed hardware store (runCallback store callback) := by
  cases callback with
  | readComplete ref => exact undisturbed_setPiccolo _ _ _
  | loadReply ref => exact undisturbed_setCore _ _ _
  | loadHidden ref => exact undisturbed_deliverHidden _ _ _
  | host _ => exact .refl _

theorem undisturbed_tickMemory (state : RunState F M) :
    Undisturbed hardware state.store (state.tickMemory config).store := by
  unfold tickMemory
  refine List.foldlRecOn
    (motive := fun reached : RunState F M =>
      Undisturbed hardware state.store reached.store) _ _ (.refl _) ?_
  intro reached undisturbed slot _
  unfold completeSlot
  simp only
  split
  · exact undisturbed
  · exact undisturbed.trans (undisturbed_runCallback _ _)

/-! ## A cycle of the simulator -/

section Cycle

variable (attached : config.attached = hardware.attached router piccolo)
  (state : RunState F M) (ready : hardware.Ready state.store)
include attached ready

/-- The part of a cycle before the vertex program clocks the aggregation. -/
theorem aggregation_tickDatapath :
    hardware.aggregation (state.tickDatapath config).1.store =
        (hardware.aggregation state.store).clock config.ops.isSignificant ∧
      (state.tickDatapath config).2.vectors =
        (hardware.aggregation state.store).outputs ∧
      hardware.Ready (state.tickDatapath config).1.store ∧
      hardware.gathered config.ops (state.tickDatapath config).1.store =
        hardware.gathered config.ops state.store := by
  let issued := (state.issuePiccolo config).tickRouter config
  have undisturbed : Undisturbed hardware state.store issued.store :=
    (undisturbed_issuePiccolo state).trans (undisturbed_tickRouter _)
  have readyIssued := undisturbed.ready ready
  obtain ⟨same, paths, inputs⟩ := tickVaults_eq
    (attached ▸ hardware.vaults_attached router piccolo) issued
    readyIssued.idleCores
  have samePaths : hardware.path issued.store = hardware.path state.store :=
    congrArg Aggregation.paths undisturbed.aggregation
  have sameUnit : (issued.tickVaults config).1.store.psaus hardware.psau =
      state.store.psaus hardware.psau :=
    (congrFun same.psaus _).trans
      (congrArg Aggregation.unit undisturbed.aggregation)
  rw [samePaths] at paths inputs
  have ticked : (state.tickDatapath config).1.store =
      (issued.tickVaults config).1.store.setPsau hardware.psau
        ((state.store.psaus hardware.psau).tick
          (hardware.aggregation state.store).outputs
          (Aggregation.anySignificant config.ops.isSignificant
            (hardware.aggregation state.store).outputs)).2.2 := by
    refine (store_tickPsau attached (issued.tickVaults config).1
      (issued.tickVaults config).2).trans ?_
    rw [sameUnit, inputs]
    rfl
  have readyVaults := same.ready readyIssued
  refine ⟨?_, congrArg TreeInputs.vectors inputs, ?_, ?_⟩
  · rw [ticked, aggregation_setPsau, same.aggregation,
      undisturbed.aggregation, paths]
    rfl
  · rw [ticked]
    exact ⟨readyVaults.drives, readyVaults.queues, readyVaults.stalls⟩
  · refine (gathered_of_piccolos config.ops ?_).trans
      (gathered_issuePiccolo state)
    rw [ticked]
    exact same.piccolos.trans (piccolos_tickRouter _)

omit ready in
/-- What follows the program's tick in a cycle. -/
theorem undisturbed_afterProgram :
    Undisturbed hardware
      ((state.tickDatapath config).1.advanceProgram config hardware.program
        (state.tickDatapath config).2).store
      (state.cycle config).store := by
  have components : state.tickComponents config =
      ((((state.tickDatapath config).1.advanceProgram config hardware.program
        (state.tickDatapath config).2).requestHidden config
          hardware.program).writebackVertex config
            hardware.program).recordStats hardware.program := by
    unfold tickComponents tickVertexProgram
    rw [attached]
    rfl
  have memory : Undisturbed hardware (state.tickComponents config).store
      (((state.tickComponents config).runAdmission config).tickMemory
        config).store :=
    undisturbed_tickMemory ((state.tickComponents config).runAdmission config)
  refine Undisturbed.trans ?_ memory
  rw [components]
  exact (undisturbed_requestHidden _ _).trans
    ((undisturbed_writebackVertex _ _).trans (undisturbed_recordStats _ _))

theorem store_advanceProgram :
    ((state.tickDatapath config).1.advanceProgram config hardware.program
        (state.tickDatapath config).2).store =
      let ticked := ((state.tickDatapath config).1.store.programs
        hardware.program).tick config.ops (state.tickDatapath config).1.store
          (hardware.aggregation state.store).outputs
      ticked.2.1.setProgram hardware.program ticked.1 := by
  rw [← (aggregation_tickDatapath attached state ready).2.1]
  rfl

/-- A cycle keeps the wiring, and the cores idle. -/
theorem ready_cycle : hardware.Ready (state.cycle config).store := by
  have readyClocked := (aggregation_tickDatapath attached state ready).2.2.1
  have undisturbed := undisturbed_afterProgram attached state
  rw [store_advanceProgram attached state ready] at undisturbed
  exact undisturbed.ready (ready_tick config.ops readyClocked _)

/-- Before the hidden-state load, a cycle of the simulator is a cycle of the
aggregation. -/
theorem aggregation_cycle
    (early : BeforeLoad (hardware.aggregation state.store)) :
    hardware.aggregation (state.cycle config).store =
      (hardware.aggregation state.store).cycle config.ops.isSignificant
        (hardware.gathered config.ops state.store) := by
  obtain ⟨clocked, outputs, readyClocked, sameGathered⟩ :=
    aggregation_tickDatapath attached state ready
  have stillEarly : BeforeLoad
      (hardware.aggregation (state.tickDatapath config).1.store) := by
    rw [clocked]
    exact early
  have program := aggregation_tick config.ops readyClocked stillEarly
    (hardware.aggregation state.store).outputs
  rw [clocked, sameGathered] at program
  have undisturbed := undisturbed_afterProgram attached state
  rw [store_advanceProgram attached state ready] at undisturbed
  exact undisturbed.aggregation.trans program.1

end Cycle

end RunState

end PimGraphs
