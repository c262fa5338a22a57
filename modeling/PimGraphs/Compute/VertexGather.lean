import PimGraphs.Compute.PhaseAccounting
import PimGraphs.Memory.GatherBatch

/-!
# The gather phase of a vertex

A vertex starts a batch on the controller of every vault.  Ticks issue its
reads, which complete at any time, and the phase ends with the tick that finds
every batch done.  Offsets are scaled by the size of an element on their way
to the address of a read.
-/

namespace PimGraphs

open PiccoloGatherController

namespace TGNVertexProgram

variable {F : Type}

/-! ## Starting the batches -/

/-- A controller in the state `start_vertex` leaves it in. -/
def Preloaded
    (cfg : VertexProgramConfig)
    (original controller : PiccoloGatherController) : Prop :=
  ∃ other : PiccoloGatherController, other.SameDevice original ∧
    controller = preloadOffsets cfg other

theorem preloadOffsets_eq_startBatch
    (cfg : VertexProgramConfig)
    (controller : PiccoloGatherController) :
    preloadOffsets cfg controller =
      (controller.setBaseAddr cfg.vertexAddr).startBatch
        cfg.numNeighbors.toNat cfg.neighborOffsets := rfl

theorem sameDevice_preloadOffsets
    (cfg : VertexProgramConfig)
    (controller : PiccoloGatherController) :
    (preloadOffsets cfg controller).SameDevice controller := by
  rw [preloadOffsets_eq_startBatch]
  have started := sameDevice_startBatch
    (controller.setBaseAddr cfg.vertexAddr) cfg.numNeighbors.toNat
    cfg.neighborOffsets
  exact ⟨started.pcId, started.elemBytes, started.obCap, started.dbCap⟩

/-- Start the batch of one vault. -/
def preloadVault
    (program : TGNVertexProgram F)
    (cfg : VertexProgramConfig)
    (store : Store F)
    (vault : Fin 16) : Store F :=
  match program.piccolos vault with
  | none => store
  | some ref =>
      store.setPiccolo ref (preloadOffsets cfg (store.piccolos ref))

theorem startVertex_snd
    [Zero F]
    (program : TGNVertexProgram F)
    (store : Store F)
    (cfg : VertexProgramConfig) :
    (program.startVertex store cfg).2 =
      (List.finRange 16).foldl (program.preloadVault cfg) store := rfl

section Preload

variable {program : TGNVertexProgram F} {cfg : VertexProgramConfig}
  {ref : Nat}

theorem piccolos_preloadVault
    (store : Store F)
    (vault : Fin 16) :
    (program.preloadVault cfg store vault).piccolos ref =
      if program.piccolos vault = some ref then
        preloadOffsets cfg (store.piccolos ref)
      else store.piccolos ref := by
  unfold preloadVault
  cases attached : program.piccolos vault with
  | none => rw [if_neg nofun]
  | some other =>
      by_cases same : other = ref
      · subst same
        rw [if_pos rfl]
        apply Function.update_self
      · rw [if_neg (fun isSame => same (Option.some.inj isSame))]
        apply Function.update_of_ne
        exact Ne.symm same

theorem sameDevice_preloadVaults
    (store : Store F)
    (vaults : List (Fin 16)) :
    ((vaults.foldl (program.preloadVault cfg) store).piccolos
      ref).SameDevice (store.piccolos ref) := by
  refine List.foldlRecOn
    (motive := fun reached : Store F =>
      (reached.piccolos ref).SameDevice (store.piccolos ref))
    _ _ (.refl _) ?_
  intro reached same vault _
  rw [piccolos_preloadVault]
  split
  · exact (sameDevice_preloadOffsets cfg _).trans same
  · exact same

variable (cfg) in
/-- A controller some vault refers to has been preloaded last. -/
theorem preloaded_preloadVaults
    (store : Store F)
    {vaults : List (Fin 16)}
    {vault : Fin 16}
    (visited : vault ∈ vaults)
    (attached : program.piccolos vault = some ref) :
    Preloaded cfg (store.piccolos ref)
      ((vaults.foldl (program.preloadVault cfg) store).piccolos ref) := by
  induction vaults using List.reverseRecOn with
  | nil => exact absurd visited List.not_mem_nil
  | append_singleton vaults last inductionHypothesis =>
      rw [List.foldl_append, List.foldl_cons, List.foldl_nil,
        piccolos_preloadVault]
      split
      case isTrue _ =>
        exact ⟨_, sameDevice_preloadVaults store vaults, rfl⟩
      case isFalse differs =>
        apply inductionHypothesis
        rcases List.mem_append.mp visited with earlier | isLast
        · exact earlier
        · rw [List.mem_singleton.mp isLast] at attached
          exact absurd attached differs

end Preload

/-! ## Issuing the reads -/

/-- Whether a read completes at a controller. -/
def issuedBy (ref : Nat) (read : MemoryBurst) : Bool :=
  decide (read.onComplete = some (.readComplete ref))

section Issue

variable (program : TGNVertexProgram F) {ref : Nat}

variable (ref) in
/-- What the turn of a vault does to a controller and its reads. -/
theorem issueVault_spec
    (state : Store F × List MemoryBurst × Bool)
    (vault : Fin 16) :
    ((program.issueVault state vault).1.piccolos ref =
          (if program.piccolos vault = some ref then
            ((state.1.piccolos ref).tickIssue ref).1
          else state.1.piccolos ref)) ∧
      (program.issueVault state vault).2.1.filter (issuedBy ref) =
        state.2.1.filter (issuedBy ref) ++
          (if program.piccolos vault = some ref then
            ((state.1.piccolos ref).tickIssue ref).2.toList
          else []) := by
  have issued (other : Nat) : ∀ read ∈
      ((state.1.piccolos other).tickIssue other).2,
        read.onComplete = some (.readComplete other) := by
    intro read isRead
    unfold tickIssue at isRead
    split at isRead
    · obtain rfl := Option.some.inj isRead
      rfl
    · cases isRead
  unfold issueVault
  cases attached : program.piccolos vault with
  | none => exact ⟨(if_neg nofun).symm, by rw [if_neg nofun, List.append_nil]⟩
  | some other =>
      by_cases same : other = ref
      · subst same
        rw [if_pos rfl, if_pos rfl]
        refine ⟨Function.update_self _ _ _, ?_⟩
        rw [List.filter_append]
        congr 1
        apply List.filter_eq_self.mpr
        intro read isRead
        exact decide_eq_true (issued other read
          (Option.mem_toList.mp isRead))
      · have differs : ¬ some other = some ref := fun isSame =>
          same (Option.some.inj isSame)
        rw [if_neg differs, if_neg differs, List.filter_append]
        refine ⟨Function.update_of_ne (Ne.symm same) _ _, ?_⟩
        congr 1
        apply List.filter_eq_nil_iff.mpr
        intro read isRead
        rw [issuedBy, decide_eq_true_eq,
          issued other read (Option.mem_toList.mp isRead)]
        exact fun isSame => same (Callback.readComplete.inj
          (Option.some.inj isSame))

theorem done_issueVault
    (state : Store F × List MemoryBurst × Bool)
    (vault : Fin 16) :
    ((program.issueVault state vault).1.piccolos ref).done =
      (state.1.piccolos ref).done := by
  rw [(program.issueVault_spec ref state vault).1]
  split
  · apply done_tickIssue
  · rfl

/-- The flag of a sweep is raised only if every batch is done. -/
theorem done_of_flag
    {state : Store F × List MemoryBurst × Bool}
    {vaults : List (Fin 16)}
    (flag : (vaults.foldl program.issueVault state).2.2 = true)
    {vault : Fin 16}
    (visited : vault ∈ vaults)
    (attached : program.piccolos vault = some ref) :
    (state.1.piccolos ref).done = true := by
  have kept (vaults : List (Fin 16))
      (state : Store F × List MemoryBurst × Bool)
      (flag : (vaults.foldl program.issueVault state).2.2 = true) :
      state.2.2 = true := by
    induction vaults generalizing state with
    | nil => exact flag
    | cons first rest inductionHypothesis =>
        have next := inductionHypothesis _ flag
        unfold issueVault at next
        split at next
        · exact next
        · exact (Bool.and_eq_true_iff.mp next).1
  induction vaults generalizing state with
  | nil => exact absurd visited List.not_mem_nil
  | cons first rest inductionHypothesis =>
      rcases List.mem_cons.mp visited with isFirst | later
      · have next := kept rest _ flag
        rw [← isFirst, issueVault, attached] at next
        have done := (Bool.and_eq_true_iff.mp next).2
        rw [done_tickIssue] at done
        exact done
      · rw [← done_issueVault program state first]
        exact inductionHypothesis flag later

/-- The store, the reads and the flag of a gather tick before any draining. -/
def issueAll (store : Store F) : Store F × List MemoryBurst × Bool :=
  (List.finRange 16).foldl program.issueVault (store, [], true)

/-- Every controller that is sound stays so, with the reads it issues. -/
theorem sound_issueAll
    {initial : PiccoloGatherController}
    {kept : List UInt32}
    {store : Store F}
    {earlier : List MemoryBurst}
    {values : List UInt32}
    (sound : GatherBatch.Sound ref initial kept
      { controller := store.piccolos ref
        reads := earlier.filter (issuedBy ref)
        values := values }) :
    GatherBatch.Sound ref initial kept
      { controller := (program.issueAll store).1.piccolos ref
        reads := (earlier ++ (program.issueAll store).2.1).filter
          (issuedBy ref)
        values := values } := by
  refine List.foldlRecOn
    (motive := fun state : Store F × List MemoryBurst × Bool =>
      GatherBatch.Sound ref initial kept
        { controller := state.1.piccolos ref
          reads := (earlier ++ state.2.1).filter (issuedBy ref)
          values := values })
    _ _ (by rw [List.append_nil]; exact sound) ?_
  intro state before vault _
  obtain ⟨controller, reads⟩ := program.issueVault_spec ref state vault
  rw [List.filter_append] at before ⊢
  rw [controller, reads, ← List.append_assoc]
  split
  · exact before.issue
  · rw [List.append_nil]
    exact before

end Issue

/-! ## What a tick does to the controllers -/

section Tick

variable [Zero F] [One F] [Add F] [Sub F] [Mul F] [Div F] [NatCast F]
  (ops : FloatOps F) (program : TGNVertexProgram F) (store : Store F)
  (saOutputs : Fin 16 → Vec16 F)

/-- A gather tick issues reads, and drains every vault if all are done. -/
theorem tick_gathering (gathering : program.phase = .genUpdateGather) :
    (program.tick ops store saOutputs).2.2 =
        (program.issueAll store).2.1 ∧
      (((program.issueAll store).2.2 = true ∧
          (program.tick ops store saOutputs).1.phase = .genUpdateCompute ∧
          (program.tick ops store saOutputs).2.1 =
            (List.finRange 16).foldl (program.drainVault ops)
              (program.issueAll store).1) ∨
        ((program.tick ops store saOutputs).1.phase = .genUpdateGather ∧
          (program.tick ops store saOutputs).2.1 =
            (program.issueAll store).1)) := by
  have issued : (List.finRange 16).foldl
      ({ program.countCycle with
        gatherCycles := program.countCycle.gatherCycles + 1 } :
          TGNVertexProgram F).issueVault (store, [], true) =
        program.issueAll store := rfl
  have drained : ({ program.countCycle with
      gatherCycles := program.countCycle.gatherCycles + 1 } :
        TGNVertexProgram F).drainVault ops = program.drainVault ops := rfl
  simp only [tick, gathering, tickGenUpdateGather, issued, drained]
  generalize program.issueAll store = state
  split
  case isTrue flag => exact ⟨rfl, Or.inl ⟨flag, rfl, rfl⟩⟩
  case isFalse _ => exact ⟨rfl, Or.inr ⟨gathering, rfl⟩⟩

/-- Only the gather phase uses the controllers. -/
theorem piccolos_tick_of_not_gathering
    (elsewhere : program.phase ≠ .genUpdateGather) :
    (program.tick ops store saOutputs).2.1.piccolos = store.piccolos := by
  let observe := fun store : Store F => store.piccolos
  have feeders : IgnoresFeeders observe := fun _ _ _ => rfl
  have arrays : IgnoresArrays observe := fun _ _ _ => rfl
  have psaus : IgnoresPsaus observe := fun _ _ _ => rfl
  unfold tick
  cases phase : program.phase with
  | genUpdateGather => exact absurd phase elsewhere
  | idle | done | applyUpdateLoadH | writeback => rfl
  | genUpdateCompute =>
      exact observe_tickGenUpdateCompute observe _ store feeders arrays
        saOutputs
  | genUpdatePsauDrain => exact observe_tickPsauDrain observe _ store psaus
  | applyUpdateGru => exact observe_tickGru observe ops _ store feeders arrays

/-- The gather phase is not entered by a tick. -/
theorem not_gathering_tick
    (elsewhere : program.phase ≠ .genUpdateGather) :
    (program.tick ops store saOutputs).1.phase ≠ .genUpdateGather := by
  obtain ⟨leaves, ticked⟩ := program.exists_ledger_tick ops store saOutputs
  have phase : (program.tick ops store saOutputs).1.phase =
      (program.ledger.tick leaves).phase := congrArg PhaseLedger.phase ticked
  rw [phase]
  rcases program.ledger.phase_tick leaves with stays | goesOn
  · rw [stays]
    exact elsewhere
  · intro gathering
    rw [gathering] at goesOn
    have noPredecessor (phase : VertexProgramPhase) :
        phase.successor ≠ some .genUpdateGather := by
      cases phase <;> exact nofun
    exact noPredecessor _ goesOn

/-- A tick does not rewire the program. -/
theorem wiring_tick :
    (program.tick ops store saOutputs).1.piccolos = program.piccolos ∧
      (program.tick ops store saOutputs).1.feeders = program.feeders := by
  unfold tick
  cases phase : program.phase with
  | idle | done | writeback => exact ⟨rfl, rfl⟩
  | genUpdateGather =>
      simp only [tickGenUpdateGather]
      split
      · exact ⟨rfl, rfl⟩
      · exact ⟨rfl, rfl⟩
  | genUpdateCompute =>
      simp only [tickGenUpdateCompute]
      split
      · exact ⟨rfl, rfl⟩
      · exact ⟨rfl, rfl⟩
  | genUpdatePsauDrain =>
      simp only [tickPsauDrain]
      split
      · exact ⟨rfl, rfl⟩
      · split
        · exact ⟨rfl, rfl⟩
        · exact ⟨rfl, rfl⟩
  | applyUpdateLoadH =>
      simp only [tickLoadHiddenState]
      split
      · exact ⟨rfl, rfl⟩
      · exact ⟨rfl, rfl⟩
  | applyUpdateGru =>
      obtain ⟨cells, -, stays | leaves⟩ := tickGru_cases ops
        program.countCycle store (fun _ => True) (fun _ _ => trivial)
        (fun _ => trivial)
      · simp only [stays]
        exact ⟨rfl, rfl⟩
      · simp only [leaves]
        exact ⟨rfl, rfl⟩

end Tick

end TGNVertexProgram

/-! ## The machine -/

/-- A program and its hardware, with what the gather controllers have done
since the vertex was started. -/
structure VertexGather (F : Type) where
  program : TGNVertexProgram F
  store : Store F
  /-- Reads of all the controllers, in the order they were enqueued in. -/
  reads : List MemoryBurst := []
  /-- Values each controller has put into its data buffer, in order. -/
  values : Nat → List UInt32 := fun _ => []

namespace VertexGather

open TGNVertexProgram

variable {F : Type}

/-- What happens: a vertex is started, the program is ticked, some read of a
controller completes, a hidden state is delivered, or the hardware other than
the controllers moves on. -/
inductive Event (F : Type)
  | start (cfg : VertexProgramConfig)
  | tick (saOutputs : Fin 16 → Vec16 F)
  | complete (piccolo : Nat) (value : UInt32)
  | deliver (payload : Vec16 F)
  | environment (store : Store F)

/-- An event that starts no vertex. -/
def Event.Continues : Event F → Prop
  | .start _ => False
  | _ => True

/-- A completed read is counted for a controller that waits for one. -/
def complete
    (system : VertexGather F)
    (ref : Nat)
    (value : UInt32) : VertexGather F :=
  { system with
    store := system.store.setPiccolo ref
      ((system.store.piccolos ref).onReadComplete value)
    values :=
      if (system.store.piccolos ref).outstanding = 0 then system.values
      else Function.update system.values ref (system.values ref ++ [value]) }

/-- The reads of one controller. -/
def readsOf (system : VertexGather F) (ref : Nat) : List MemoryBurst :=
  system.reads.filter (issuedBy ref)

/-- The batch of one controller, nothing of which has been drained. -/
def batch (system : VertexGather F) (ref : Nat) : GatherBatch where
  controller := system.store.piccolos ref
  reads := system.readsOf ref
  values := system.values ref

variable [Zero F] [One F] [Add F] [Sub F] [Mul F] [Div F] [NatCast F]

/-- One event of the program or its memory. -/
def next (ops : FloatOps F) (system : VertexGather F) :
    Event F → VertexGather F
  | .start cfg =>
      let (program, store) := system.program.startVertex system.store cfg
      { program, store }
  | .tick saOutputs =>
      let (program, store, reads) :=
        system.program.tick ops system.store saOutputs
      { system with program, store, reads := system.reads ++ reads }
  | .complete piccolo value => system.complete piccolo value
  | .deliver payload =>
      { system with program := system.program.deliverHidden payload }
  | .environment store =>
      { system with
        store := { store with piccolos := system.store.piccolos } }

/-- A gather from the start of its vertex: the state before the tick that
ends it, and the state after. -/
structure Gathers
    (ops : FloatOps F)
    (system : VertexGather F)
    (cfg : VertexProgramConfig)
    (waiting drained : VertexGather F) : Prop where
  waits : ∃ events : List (Event F), (∀ event ∈ events, event.Continues) ∧
    Run.after (next ops) (system.next ops (.start cfg)) events = waiting
  gathering : waiting.program.phase = .genUpdateGather
  drains : ∃ saOutputs, waiting.next ops (.tick saOutputs) = drained
  computing : drained.program.phase = .genUpdateCompute

/-- The buffers of the controllers have the capacity they are built with. -/
def DefaultBuffers (system : VertexGather F) : Prop :=
  ∀ vault ref, system.program.piccolos vault = some ref →
    (system.store.piccolos ref).ob.cap = 256 ∧
      (system.store.piccolos ref).db.cap = 256

/-! ## Soundness of the gather -/

/-- A controller about to gather the batch of a vertex. -/
structure StartsBatch
    (cfg : VertexProgramConfig)
    (controller initial : PiccoloGatherController) : Prop where
  numElems : initial.numElems = cfg.numNeighbors.toNat
  baseAddr : initial.baseAddr = cfg.vertexAddr
  elemBytes : initial.elemBytes = controller.elemBytes

/-- While the gather lasts, the batch of a controller is sound. -/
def SoundGather
    (cfg : VertexProgramConfig)
    (controller : PiccoloGatherController)
    (ref : Nat)
    (system : VertexGather F) : Prop :=
  system.program.phase = .genUpdateGather →
    ∃ initial, StartsBatch cfg controller initial ∧
      GatherBatch.Sound ref initial (cfg.neighborOffsets.take 256)
        (system.batch ref)

variable {ops : FloatOps F} {system : VertexGather F}
  {cfg : VertexProgramConfig} {vault : Fin 16} {ref : Nat}

theorem soundGather_start
    (buffers : system.DefaultBuffers)
    (attached : system.program.piccolos vault = some ref) :
    SoundGather cfg (system.store.piccolos ref) ref
      (system.next ops (.start cfg)) := by
  intro _
  obtain ⟨other, device, preloaded⟩ := preloaded_preloadVaults
    cfg system.store (List.mem_finRange vault) attached
  obtain ⟨obCap, dbCap⟩ := buffers vault ref attached
  have started := GatherBatch.Sound.start ref
    (other.setBaseAddr cfg.vertexAddr) cfg.numNeighbors.toNat
    cfg.neighborOffsets (by
      change other.ob.cap ≤ other.db.cap
      rw [device.obCap, device.dbCap, obCap, dbCap])
  have cap : (other.setBaseAddr cfg.vertexAddr).ob.cap = 256 :=
    device.obCap.trans obCap
  rw [cap] at started
  refine ⟨preloadOffsets cfg other, ⟨rfl, rfl, device.elemBytes⟩, ?_⟩
  rw [← startVertex_snd] at preloaded
  have batch : (system.next ops (.start cfg)).batch ref =
      { controller := preloadOffsets cfg other } := by
    rw [← preloaded]
    rfl
  rw [batch, preloadOffsets_eq_startBatch]
  exact started

variable (ops) in
theorem wiring_next
    (system : VertexGather F)
    (event : Event F) :
    (system.next ops event).program.piccolos = system.program.piccolos ∧
      (system.next ops event).program.feeders = system.program.feeders := by
  cases event with
  | start _ | complete _ _ | deliver _ | environment _ => exact ⟨rfl, rfl⟩
  | tick saOutputs =>
      exact system.program.wiring_tick ops system.store saOutputs

omit [Zero F] [One F] [Add F] [Sub F] [Mul F] [Div F] [NatCast F] in
theorem SoundGather.complete
    {controller : PiccoloGatherController}
    (sound : SoundGather cfg controller ref system)
    (piccolo : Nat)
    (value : UInt32) :
    SoundGather cfg controller ref (system.complete piccolo value) := by
  intro gathering
  obtain ⟨initial, starts, batchSound⟩ := sound gathering
  refine ⟨initial, starts, ?_⟩
  by_cases same : piccolo = ref
  · subst same
    by_cases idle : (system.store.piccolos piccolo).outstanding = 0
    · have unchanged : (system.complete piccolo value).batch piccolo =
          system.batch piccolo := by
        simp [batch, readsOf, VertexGather.complete, Store.setPiccolo,
          onReadComplete, idle]
      rw [unchanged]
      exact batchSound
    · have completed : (system.complete piccolo value).batch piccolo =
          (system.batch piccolo).complete value := by
        simp [batch, readsOf, VertexGather.complete, Store.setPiccolo,
          GatherBatch.complete, idle]
      have balance := batchSound.balance
      have counted := batchSound.completed
      have issued := batchSound.length_reads
      rw [completed]
      apply batchSound.complete
      have waits : 0 < (system.batch piccolo).controller.outstanding :=
        Nat.pos_of_ne_zero idle
      omega
  · have unchanged : (system.complete piccolo value).batch ref =
        system.batch ref := by
      by_cases idle : (system.store.piccolos piccolo).outstanding = 0
      · simp [batch, readsOf, VertexGather.complete, Store.setPiccolo, idle,
          Ne.symm same]
      · simp [batch, readsOf, VertexGather.complete, Store.setPiccolo, idle,
          Ne.symm same]
    rw [unchanged]
    exact batchSound

/-- Whatever happens, a batch stays sound as long as the gather lasts. -/
theorem SoundGather.next
    {controller : PiccoloGatherController}
    (sound : SoundGather cfg controller ref system)
    {event : Event F}
    (continues : event.Continues) :
    SoundGather cfg controller ref (system.next ops event) := by
  cases event with
  | start _ => exact continues.elim
  | deliver _ => exact sound
  | environment _ => exact sound
  | complete piccolo value => exact sound.complete piccolo value
  | tick saOutputs =>
      intro gathering
      by_cases before : system.program.phase = .genUpdateGather
      · obtain ⟨reads, ⟨-, computing, -⟩ | ⟨-, issued⟩⟩ :=
          tick_gathering ops system.program system.store saOutputs before
        · exact absurd (gathering.symm.trans computing) nofun
        · obtain ⟨initial, starts, batchSound⟩ := sound before
          refine ⟨initial, starts, ?_⟩
          have issuedSound := sound_issueAll system.program batchSound
          simp only [VertexGather.next, batch, readsOf, reads, issued]
          exact issuedSound
      · exact absurd gathering (not_gathering_tick ops system.program
          system.store saOutputs before)

theorem wiring_after
    (system : VertexGather F)
    (events : List (Event F)) :
    (Run.after (next ops) system events).program.piccolos =
        system.program.piccolos ∧
      (Run.after (next ops) system events).program.feeders =
        system.program.feeders := by
  apply Run.after_of_forall_mem
    (fun reached : VertexGather F =>
      reached.program.piccolos = system.program.piccolos ∧
        reached.program.feeders = system.program.feeders)
  · intro event _ reached same
    have kept := wiring_next ops reached event
    exact ⟨kept.1.trans same.1, kept.2.trans same.2⟩
  · exact ⟨rfl, rfl⟩

section Gathers

variable {waiting drained : VertexGather F}
  (gathers : Gathers ops system cfg waiting drained)
include gathers

theorem Gathers.wiring :
    waiting.program.piccolos = system.program.piccolos ∧
      waiting.program.feeders = system.program.feeders := by
  obtain ⟨events, -, rfl⟩ := gathers.waits
  exact wiring_after _ events

theorem Gathers.sound
    (buffers : system.DefaultBuffers)
    (attached : system.program.piccolos vault = some ref) :
    ∃ initial, StartsBatch cfg (system.store.piccolos ref) initial ∧
      GatherBatch.Sound ref initial (cfg.neighborOffsets.take 256)
        (waiting.batch ref) := by
  obtain ⟨events, continue', rfl⟩ := gathers.waits
  have sound : SoundGather cfg (system.store.piccolos ref) ref
      (Run.after (next ops) (system.next ops (.start cfg)) events) := by
    apply Run.after_of_forall_mem
      (SoundGather cfg (system.store.piccolos ref) ref)
    · intro event isEvent reached sound
      exact sound.next (continue' event isEvent)
    · exact soundGather_start buffers attached
  exact sound gathers.gathering

/-- The end of a gather: its reads are those of the last sweep, which finds
every batch done, and the vaults are drained. -/
theorem Gathers.ends :
    drained.reads = waiting.reads ++
        (waiting.program.issueAll waiting.store).2.1 ∧
      drained.store = (List.finRange 16).foldl
        (waiting.program.drainVault ops)
        (waiting.program.issueAll waiting.store).1 ∧
      ∀ vault ref, system.program.piccolos vault = some ref →
        (waiting.store.piccolos ref).done = true := by
  obtain ⟨saOutputs, rfl⟩ := gathers.drains
  have computing := gathers.computing
  obtain ⟨reads, ⟨flag, -, store⟩ | ⟨stays, -⟩⟩ := tick_gathering ops
    waiting.program waiting.store saOutputs gathers.gathering
  · refine ⟨congrArg (waiting.reads ++ ·) reads, store, ?_⟩
    intro vault ref attached
    rw [← gathers.wiring.1] at attached
    exact done_of_flag waiting.program flag (List.mem_finRange vault) attached
  · exact absurd (stays.symm.trans computing) nofun

/-- At its end a batch is sound and has all its reads completed. -/
theorem Gathers.exists_batch
    (buffers : system.DefaultBuffers)
    (attached : system.program.piccolos vault = some ref) :
    ∃ initial, StartsBatch cfg (system.store.piccolos ref) initial ∧
      GatherBatch.Sound ref initial (cfg.neighborOffsets.take 256)
        { controller :=
            (waiting.program.issueAll waiting.store).1.piccolos ref
          reads := drained.readsOf ref
          values := waiting.values ref } ∧
      (waiting.values ref).length = cfg.numNeighbors.toNat := by
  obtain ⟨initial, starts, sound⟩ := gathers.sound buffers attached
  obtain ⟨reads, -, done⟩ := gathers.ends
  have last := sound_issueAll waiting.program sound
  rw [← reads] at last
  refine ⟨initial, starts, last, ?_⟩
  rw [← starts.numElems]
  exact sound.done_iff.mp (done vault ref attached)

/-- The reads of a controller in a gather that ends. -/
theorem Gathers.readsOf_eq
    (buffers : system.DefaultBuffers)
    (neighbors :
      cfg.neighborOffsets.length = cfg.numNeighbors.toNat)
    (few : cfg.numNeighbors.toNat ≤ 256)
    (attached : system.program.piccolos vault = some ref) :
    ∃ initial, StartsBatch cfg (system.store.piccolos ref) initial ∧
      drained.readsOf ref =
        cfg.neighborOffsets.map (initial.elementRead ref) := by
  obtain ⟨initial, starts, sound, values⟩ :=
    gathers.exists_batch buffers attached
  have balance := sound.balance
  have completed := sound.completed
  have most := sound.issued_le
  have numElems := starts.numElems
  simp only at balance completed most
  refine ⟨initial, starts, sound.reads.trans ?_⟩
  rw [List.take_take, List.take_of_length_le]
  simp only
  omega

end Gathers

/-! ## The units of an offset -/

/-- The reads of a controller are one of an element for every neighbor, at
the address of the vertex and the byte offset of the neighbor. -/
def ReadsByteOffsets
    (cfg : VertexProgramConfig)
    (elemBytes : UInt32)
    (reads : List MemoryBurst) : Prop :=
  reads.map (fun read => (read.addr, read.sizeBytes)) =
    cfg.neighborOffsets.map fun offset =>
      (cfg.vertexAddr + offset.toUInt64, elemBytes)

/-- Scaling an offset by the element size changes it unless it is zero or
elements are bytes. -/
theorem scaled_eq_iff (offset elemBytes : UInt32) :
    offset.toUInt64 * elemBytes.toUInt64 = offset.toUInt64 ↔
      elemBytes = 1 ∨ offset = 0 := by
  have offsetBound := offset.toNat_lt
  have bytesBound := elemBytes.toNat_lt
  have product : offset.toNat * elemBytes.toNat ≤
      (2 ^ 32 - 1) * (2 ^ 32 - 1) := Nat.mul_le_mul (by omega) (by omega)
  rw [← UInt64.toNat_inj, UInt64.toNat_mul, UInt32.toNat_toUInt64,
    UInt32.toNat_toUInt64, Nat.mod_eq_of_lt (by omega), ← UInt32.toNat_inj,
    ← UInt32.toNat_inj]
  change _ ↔ elemBytes.toNat = 1 ∨ offset.toNat = 0
  rcases Nat.eq_zero_or_pos offset.toNat with zero | positive
  · rw [zero, Nat.zero_mul]
    exact ⟨fun _ => Or.inr rfl, fun _ => rfl⟩
  · rw [Nat.mul_eq_left (Nat.ne_of_gt positive)]
    omega

theorem StartsBatch.reads_unscaled_iff
    {controller initial : PiccoloGatherController}
    (starts : StartsBatch cfg controller initial)
    (ref : Nat) :
    ReadsByteOffsets cfg controller.elemBytes
        (cfg.neighborOffsets.map (initial.elementRead ref)) ↔
      controller.elemBytes = 1 ∨ ∀ offset ∈ cfg.neighborOffsets,
        offset = 0 := by
  have each (offset : UInt32) :
      ((initial.elementRead ref offset).addr,
          (initial.elementRead ref offset).sizeBytes) =
        (cfg.vertexAddr + offset.toUInt64, controller.elemBytes) ↔
        controller.elemBytes = 1 ∨ offset = 0 := by
    rw [elementRead, Prod.mk.injEq, starts.baseAddr, starts.elemBytes,
      UInt64.add_right_inj, scaled_eq_iff]
    exact ⟨And.left, fun unscaled => ⟨unscaled, rfl⟩⟩
  rw [ReadsByteOffsets, List.map_map, List.map_inj_left]
  constructor
  · intro all
    by_cases bytes : controller.elemBytes = 1
    · exact Or.inl bytes
    · right
      intro offset isOffset
      exact ((each offset).mp (all offset isOffset)).resolve_left bytes
  · intro unscaled offset isOffset
    apply (each offset).mpr
    rcases unscaled with bytes | zero
    · exact Or.inl bytes
    · exact Or.inr (zero offset isOffset)

/-- In every gather that ends, the controllers have read at the byte offsets
of the neighbors exactly when their elements are bytes or all offsets are
zero. -/
theorem readsByteOffsets_iff
    (ops : FloatOps F)
    (system : VertexGather F)
    (buffers : system.DefaultBuffers)
    (cfg : VertexProgramConfig)
    (neighbors :
      cfg.neighborOffsets.length = cfg.numNeighbors.toNat)
    (few : cfg.numNeighbors.toNat ≤ 256)
    (waiting drained : VertexGather F)
    (gathers : Gathers ops system cfg waiting drained) :
    (∀ vault ref, system.program.piccolos vault = some ref →
      ReadsByteOffsets cfg (system.store.piccolos ref).elemBytes
        (drained.readsOf ref)) ↔
      ∀ vault ref, system.program.piccolos vault = some ref →
        (system.store.piccolos ref).elemBytes = 1 ∨
          ∀ offset ∈ cfg.neighborOffsets, offset = 0 := by
  apply forall_congr'
  intro vault
  apply forall_congr'
  intro ref
  apply forall_congr'
  intro attached
  obtain ⟨initial, starts, reads⟩ :=
    gathers.readsOf_eq buffers neighbors few attached
  rw [reads]
  exact starts.reads_unscaled_iff ref

/-! ## One neighbor at byte offset four -/

section Witness

/-- One vault with a controller of four-byte elements and a feeder. -/
def oneVault : VertexGather ℚ where
  program := .initial (fun vault => if vault = 0 then some 0 else none) 0
    (fun _ => none) (fun vault => if vault = 0 then some 0 else none)
  store := .initial

/-- A vertex with one neighbor, four bytes from the base. -/
def offsetFour : VertexProgramConfig :=
  { numNeighbors := 1, neighborOffsets := [4] }

/-- The read has been issued and has completed. -/
def offsetFourRead : VertexGather ℚ :=
  Run.after (next .atZero) (oneVault.next .atZero (.start offsetFour))
    [.tick 0, .complete 0 7]

/-- Gathers of one vault end with a tick that finds them done. -/
theorem gathers_of_phases
    {cfg : VertexProgramConfig}
    {events : List (Event ℚ)}
    (continue' : ∀ event ∈ events, event.Continues)
    (gathering : (Run.after (next .atZero)
      (oneVault.next .atZero (.start cfg)) events).program.phase =
        .genUpdateGather)
    (computing : ((Run.after (next .atZero)
      (oneVault.next .atZero (.start cfg)) events).next .atZero
        (.tick 0)).program.phase = .genUpdateCompute) :
    Gathers .atZero oneVault cfg
      (Run.after (next .atZero) (oneVault.next .atZero (.start cfg)) events)
      ((Run.after (next .atZero) (oneVault.next .atZero (.start cfg))
        events).next .atZero (.tick 0)) :=
  ⟨⟨events, continue', rfl⟩, gathering, ⟨0, rfl⟩, computing⟩

theorem gathers_offsetFour :
    Gathers .atZero oneVault offsetFour offsetFourRead
      (offsetFourRead.next .atZero (.tick 0)) := by
  apply gathers_of_phases
  · intro event isEvent
    rcases List.mem_cons.mp isEvent with rfl | isLast
    · trivial
    · rw [List.mem_singleton.mp isLast]
      trivial
  · decide +kernel
  · decide +kernel

theorem defaultBuffers_oneVault : oneVault.DefaultBuffers :=
  fun _ _ _ => ⟨rfl, rfl⟩

/-- The read at byte offset four goes to address sixteen. -/
theorem offsetFour_not_readsByteOffsets :
    Gathers .atZero oneVault offsetFour offsetFourRead
        (offsetFourRead.next .atZero (.tick 0)) ∧
      ¬ ∀ vault ref, oneVault.program.piccolos vault = some ref →
        ReadsByteOffsets offsetFour (oneVault.store.piccolos ref).elemBytes
          ((offsetFourRead.next .atZero (.tick 0)).readsOf ref) := by
  refine ⟨gathers_offsetFour, ?_⟩
  intro all
  have reads := all 0 0 rfl
  revert reads
  unfold ReadsByteOffsets
  decide +kernel

theorem offsetFour_readsByteOffsets_iff :
    (∀ vault ref, oneVault.program.piccolos vault = some ref →
      ReadsByteOffsets offsetFour (oneVault.store.piccolos ref).elemBytes
        ((offsetFourRead.next .atZero (.tick 0)).readsOf ref)) ↔
      ∀ vault ref, oneVault.program.piccolos vault = some ref →
        (oneVault.store.piccolos ref).elemBytes = 1 ∨
          ∀ offset ∈ offsetFour.neighborOffsets, offset = 0 :=
  readsByteOffsets_iff .atZero oneVault defaultBuffers_oneVault offsetFour rfl
    (by decide) offsetFourRead (offsetFourRead.next .atZero (.tick 0))
    gathers_offsetFour

end Witness

end VertexGather

end PimGraphs
