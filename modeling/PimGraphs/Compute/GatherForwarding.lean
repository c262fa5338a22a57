import PimGraphs.Compute.VertexGather

/-!
# Forwarding the gathered values

The tick that ends a gather takes at most sixteen values from every data
buffer and pushes them into the feeder of the vault as the lanes of one
vector.  Further values stay in the buffer until the next vertex clears it.
-/

namespace PimGraphs

open PiccoloGatherController

namespace ArrayFeeder

variable {F : Type}

/-- Activations have been taken from a feeder, and none pushed. -/
def Takes (before after : ArrayFeeder F) : Prop :=
  ∃ count, ∀ row, after.delayLines row = (before.delayLines row).drop count

theorem Takes.refl (feeder : ArrayFeeder F) : feeder.Takes feeder :=
  ⟨0, fun _ => rfl⟩

theorem Takes.trans
    {first second third : ArrayFeeder F}
    (earlier : first.Takes second)
    (later : second.Takes third) :
    first.Takes third := by
  obtain ⟨count, lines⟩ := earlier
  obtain ⟨more, rest⟩ := later
  refine ⟨count + more, ?_⟩
  intro row
  rw [rest, lines, List.drop_drop]

theorem takes_getNextActivations [Zero F] (feeder : ArrayFeeder F) :
    feeder.Takes feeder.getNextActivations.2 := by
  refine ⟨1, ?_⟩
  intro row
  exact List.drop_one.symm

theorem length_foldl_pushVector
    [Zero F]
    (feeder : ArrayFeeder F)
    (vecs : List (Vec16 F)) :
    ((vecs.foldl pushVector feeder).delayLines 0).length =
      (feeder.delayLines 0).length + vecs.length := by
  induction vecs generalizing feeder with
  | nil => rfl
  | cons vec rest inductionHypothesis =>
      rw [List.foldl_cons, inductionHypothesis]
      simp only [pushVector, List.length_append, List.length_replicate,
        List.length_cons, List.length_nil, Fin.val_zero]
      omega

end ArrayFeeder

namespace TGNVertexProgram

variable {F : Type}

/-- What is left after some values have been taken. -/
theorem takeValues_snd
    (count : Nat)
    (controller : PiccoloGatherController) :
    (takeValues count controller).2.db.contents =
        controller.db.contents.drop count ∧
      (takeValues count controller).2.outstanding =
        controller.outstanding := by
  induction count generalizing controller with
  | zero => exact ⟨rfl, rfl⟩
  | succ count inductionHypothesis =>
      rw [takeValues]
      split
      case isTrue empty =>
        have noValues : controller.db.contents = [] := by
          rw [← List.length_eq_zero_iff, RingBuffer.length_contents, empty]
        rw [noValues, List.drop_nil]
        exact ⟨rfl, rfl⟩
      case isFalse _ =>
        obtain ⟨contents, outstanding⟩ :=
          inductionHypothesis controller.popDb
        refine ⟨contents.trans ?_, outstanding⟩
        rw [popDb, RingBuffer.contents_pop, List.drop_tail]

/-- The lanes of a vector that holds all values. -/
theorem ofFn_gatheredVec
    [Zero F]
    (ops : FloatOps F)
    {values : List UInt32}
    (few : values.length ≤ 16) :
    List.ofFn (gatheredVec ops values) =
      values.map ops.ofBits ++ List.replicate (16 - values.length) 0 := by
  apply List.ext_getElem?
  intro lane
  rw [List.getElem?_ofFn]
  rcases Nat.lt_or_ge lane values.length with held | padding
  · rw [List.getElem?_append_left (by rw [List.length_map]; exact held),
      dif_pos (by omega)]
    simp [gatheredVec, held]
  · rw [List.getElem?_append_right (by rw [List.length_map]; exact padding),
      List.getElem?_replicate, List.length_map]
    by_cases inside : lane < 16
    · rw [dif_pos inside, if_pos (by omega)]
      simp [gatheredVec, padding]
    · rw [dif_neg inside, if_neg (by omega)]

/-- No two vaults share a controller or a feeder. -/
structure OnePerVault (program : TGNVertexProgram F) : Prop where
  piccolos : ∀ vault other ref, program.piccolos vault = some ref →
    program.piccolos other = some ref → vault = other
  feeders : ∀ vault other ref, program.feeders vault = some ref →
    program.feeders other = some ref → vault = other

/-- The controller and the feeder of a vault. -/
def buffersOf
    (program : TGNVertexProgram F)
    (store : Store F)
    (vault : Fin 16) :
    Option PiccoloGatherController × Option (ArrayFeeder F) :=
  ((program.piccolos vault).map store.piccolos,
    (program.feeders vault).map store.feeders)

/-- A vault with both is drained of up to sixteen values. -/
def drainBuffers [Zero F] (ops : FloatOps F) :
    Option PiccoloGatherController × Option (ArrayFeeder F) →
      Option PiccoloGatherController × Option (ArrayFeeder F)
  | (some controller, some feeder) =>
      (some (takeValues 16 controller).2,
        some (feeder.pushVector
          (gatheredVec ops (takeValues 16 controller).1)))
  | buffers => buffers

section Drain

variable [Zero F] (ops : FloatOps F) {program : TGNVertexProgram F}

/-- A vault's turn drains its own controller into its own feeder only. -/
theorem local_drainBuffers (own : program.OnePerVault) :
    Sweep.Local (program.drainVault ops) (fun _ => True) program.buffersOf
      (fun _ => drainBuffers ops) := by
  apply Sweep.Local.of_visit
  intro store vault _
  cases hasFeeder : program.feeders vault with
  | none =>
      have skipped : program.drainVault ops store vault = store := by
        simp [drainVault, hasFeeder]
      rw [skipped]
      refine ⟨trivial, ?_, fun _ _ => rfl⟩
      simp [buffersOf, drainBuffers, hasFeeder]
  | some feeder =>
      cases hasPiccolo : program.piccolos vault with
      | none =>
          have skipped : program.drainVault ops store vault = store := by
            simp [drainVault, hasFeeder, hasPiccolo]
          rw [skipped]
          refine ⟨trivial, ?_, fun _ _ => rfl⟩
          simp [buffersOf, drainBuffers, hasPiccolo]
      | some piccolo =>
          refine ⟨trivial, ?_, ?_⟩
          · simp [drainVault, buffersOf, drainBuffers, hasFeeder,
              hasPiccolo, Store.setFeeder, Store.setPiccolo]
          · intro other differs
            simp only [drainVault, hasFeeder, hasPiccolo, buffersOf]
            apply Prod.ext
            · apply map_update_of_ne
              intro shared
              exact differs (own.piccolos other vault _ shared hasPiccolo)
            · apply map_update_of_ne
              intro shared
              exact differs (own.feeders other vault _ shared hasFeeder)

theorem buffersOf_drainAll
    (own : program.OnePerVault)
    (store : Store F)
    (vault : Fin 16) :
    program.buffersOf
        ((List.finRange 16).foldl (program.drainVault ops) store) vault =
      drainBuffers ops (program.buffersOf store vault) :=
  (local_drainBuffers ops own).view_foldl (List.nodup_finRange 16)
    (List.mem_finRange vault) store trivial

end Drain

section Feeders

variable [Zero F] [One F] [Add F] [Sub F] [Mul F] [Div F] [NatCast F]
  (ops : FloatOps F) (program : TGNVertexProgram F) (store : Store F)
  (saOutputs : Fin 16 → Vec16 F)

omit [One F] [Sub F] [Div F] [NatCast F] in
theorem takes_tickGenUpdateCompute (ref : Nat) :
    (store.feeders ref).Takes
      ((program.tickGenUpdateCompute store saOutputs).2.feeders ref) := by
  have clocked (counted : TGNVertexProgram F) :
      (store.feeders ref).Takes
        (((List.finRange 16).foldl counted.clockVault store).feeders ref) := by
    refine List.foldlRecOn
      (motive := fun state : Store F =>
        (store.feeders ref).Takes (state.feeders ref))
      _ _ (.refl _) ?_
    intro state taken vault _
    apply taken.trans
    unfold clockVault
    split
    case h_1 arrayRef feederRef _ _ =>
      by_cases own : ref = feederRef
      · subst own
        simp only [Store.setArray, Store.setFeeder, Function.update_self]
        apply ArrayFeeder.takes_getNextActivations
      · simp only [Store.setArray, Store.setFeeder,
          Function.update_of_ne own]
        apply ArrayFeeder.Takes.refl
    case h_2 _ => apply ArrayFeeder.Takes.refl
  unfold tickGenUpdateCompute
  simp only
  split
  · apply clocked
  · apply clocked

/-- Until the evaluations start, only the tick that ends the gather pushes
into a feeder. -/
theorem takes_tick
    (early : (program.tick ops store saOutputs).1.phase.rank ≤
      VertexProgramPhase.applyUpdateLoadH.rank)
    (stays : program.phase = .genUpdateGather →
      (program.tick ops store saOutputs).1.phase = .genUpdateGather)
    (ref : Nat) :
    (store.feeders ref).Takes
      ((program.tick ops store saOutputs).2.1.feeders ref) := by
  cases phase : program.phase with
  | idle | done | applyUpdateLoadH | writeback =>
      simp only [tick, phase]
      apply ArrayFeeder.Takes.refl
  | genUpdateGather =>
      obtain ⟨-, ⟨-, computing, -⟩ | ⟨-, issued⟩⟩ :=
        tick_gathering ops program store saOutputs phase
      · exact absurd ((stays phase).symm.trans computing) (by decide)
      · rw [issued, issueAll, feeders_issueVaults program store]
        apply ArrayFeeder.Takes.refl
  | genUpdateCompute =>
      simp only [tick, phase]
      apply takes_tickGenUpdateCompute
  | genUpdatePsauDrain =>
      simp only [tick, phase, tickPsauDrain]
      split
      · apply ArrayFeeder.Takes.refl
      · split
        · apply ArrayFeeder.Takes.refl
        · apply ArrayFeeder.Takes.refl
  | applyUpdateGru =>
      have later := program.rank_le_rank_tick ops store saOutputs
      rw [phase] at later
      exact absurd (later.trans early) (by decide)

end Feeders

end TGNVertexProgram

/-! ## A vertex on its way through the first phase -/

namespace VertexGather

open TGNVertexProgram

variable {F : Type}

/-- What happens until the gather is done, the array outputs of the tick that
ends it, and what happens until the message is accumulated. -/
structure UpdateEvents (F : Type) where
  gathering : List (Event F)
  saOutputs : Fin 16 → Vec16 F
  computing : List (Event F)

variable [Zero F] [One F] [Add F] [Sub F] [Mul F] [Div F] [NatCast F]

section Update

variable (ops : FloatOps F) (system : VertexGather F)
  (cfg : VertexProgramConfig) (events : UpdateEvents F)

/-- Before the tick that ends the gather. -/
def waiting : VertexGather F :=
  Run.after (next ops) (system.next ops (.start cfg)) events.gathering

/-- A controller between the last sweep of issues and the drain. -/
def gathered (ref : Nat) : PiccoloGatherController :=
  ((system.waiting ops cfg events).program.issueAll
    (system.waiting ops cfg events).store).1.piccolos ref

/-- After the tick that ends the gather. -/
def drained : VertexGather F :=
  (system.waiting ops cfg events).next ops (.tick events.saOutputs)

/-- At the end of the first phase. -/
def leaving : VertexGather F :=
  Run.after (next ops) (system.drained ops cfg events) events.computing

/-- The events take a vertex from its start through the first phase. -/
structure Passes : Prop where
  gatheringContinues : ∀ event ∈ events.gathering, event.Continues
  computingContinues : ∀ event ∈ events.computing, event.Continues
  gathering :
    (system.waiting ops cfg events).program.phase = .genUpdateGather
  computing :
    (system.drained ops cfg events).program.phase = .genUpdateCompute
  leaving :
    (system.leaving ops cfg events).program.phase = .applyUpdateLoadH

/-- The feeder of a vault, if it has one. -/
def feederOf (system : VertexGather F) (vault : Fin 16) :
    Option (ArrayFeeder F) :=
  (system.program.feeders vault).map system.store.feeders

/-- A tick that pushes nothing into a feeder. -/
def OnlyTakes (system : VertexGather F) (event : Event F) : Prop :=
  ∀ saOutputs, event = .tick saOutputs → ∀ ref,
    (system.store.feeders ref).Takes
      ((system.next ops event).store.feeders ref)

/-- All values of a vault's controller are forwarded to the vault's feeder,
each once and in order: they are the lanes of the vectors pushed by the tick
that ends the gather, up to trailing zeros, no other tick pushes anything,
and the data buffer is left empty. -/
structure Forwards (vault : Fin 16) (ref : Nat) : Prop where
  pushed : ∃ vecs : List (Vec16 F), ∃ padding,
    (system.drained ops cfg events).feederOf vault =
        ((system.waiting ops cfg events).feederOf vault).map
          (fun feeder => vecs.foldl ArrayFeeder.pushVector feeder) ∧
      ((system.waiting ops cfg events).feederOf vault = none → vecs = []) ∧
      vecs.flatMap List.ofFn =
        ((system.drained ops cfg events).values ref).map ops.ofBits ++
          List.replicate padding 0
  before : Run.Along (next ops) (OnlyTakes ops)
    (system.next ops (.start cfg)) events.gathering
  after : Run.Along (next ops) (OnlyTakes ops)
    (system.drained ops cfg events) events.computing
  emptied :
    ((system.leaving ops cfg events).store.piccolos ref).db.contents = []

end Update

section Steps

variable {ops : FloatOps F} {system : VertexGather F}

theorem not_gathering_next
    (elsewhere : system.program.phase ≠ .genUpdateGather)
    {event : Event F}
    (continues : event.Continues) :
    (system.next ops event).program.phase ≠ .genUpdateGather := by
  cases event with
  | start _ => exact continues.elim
  | tick saOutputs =>
      exact not_gathering_tick ops system.program system.store saOutputs
        elsewhere
  | complete _ _ | deliver _ | environment _ => exact elsewhere

theorem not_gathering_after
    (elsewhere : system.program.phase ≠ .genUpdateGather)
    {events : List (Event F)}
    (continue' : ∀ event ∈ events, event.Continues) :
    (Run.after (next ops) system events).program.phase ≠
      .genUpdateGather := by
  apply Run.after_of_forall_mem
    (fun reached : VertexGather F => reached.program.phase ≠ .genUpdateGather)
  · intro event isEvent reached notYet
    exact not_gathering_next notYet (continue' event isEvent)
  · exact elsewhere

theorem rank_le_rank_next
    (system : VertexGather F)
    {event : Event F}
    (continues : event.Continues) :
    system.program.phase.rank ≤
      (system.next ops event).program.phase.rank := by
  cases event with
  | start _ => exact continues.elim
  | tick saOutputs =>
      exact system.program.rank_le_rank_tick ops system.store saOutputs
  | complete _ _ | deliver _ | environment _ => exact Nat.le_refl _

theorem rank_le_rank_after
    (system : VertexGather F)
    {events : List (Event F)}
    (continue' : ∀ event ∈ events, event.Continues) :
    system.program.phase.rank ≤
      (Run.after (next ops) system events).program.phase.rank := by
  apply Run.after_of_forall_mem
    (fun reached : VertexGather F =>
      system.program.phase.rank ≤ reached.program.phase.rank)
  · intro event isEvent reached later
    exact later.trans (reached.rank_le_rank_next (continue' event isEvent))
  · apply Nat.le_refl

/-- Up to the end of the first phase no tick pushes but one that leaves the
gather. -/
theorem onlyTakes_along
    {events : List (Event F)}
    (continue' : ∀ event ∈ events, event.Continues)
    (early : (Run.after (next ops) system events).program.phase.rank ≤
      VertexProgramPhase.applyUpdateLoadH.rank)
    (stays : (Run.after (next ops) system events).program.phase =
        .genUpdateGather ∨
      system.program.phase ≠ .genUpdateGather) :
    Run.Along (next ops) (OnlyTakes ops) system events := by
  rintro before event ⟨rest, rfl⟩ saOutputs rfl ref
  have beforeContinues : ∀ event ∈ before, event.Continues := by
    intro event isEvent
    apply continue'
    simp [isEvent]
  have restContinues : ∀ event ∈ rest, event.Continues := by
    intro event isEvent
    apply continue'
    simp [isEvent]
  have last :
      Run.after (next ops) system (before ++ [.tick saOutputs] ++ rest) =
        Run.after (next ops) ((Run.after (next ops) system before).next ops
          (.tick saOutputs)) rest := by
    rw [Run.after_append, Run.after_append]
    rfl
  rw [last] at early stays
  apply takes_tick
  · exact (rank_le_rank_after _ restContinues).trans early
  · intro gathering
    rcases stays with ends | elsewhere
    · by_contra left
      exact not_gathering_after left restContinues ends
    · exact absurd gathering (not_gathering_after elsewhere beforeContinues)

/-- A controller that waits for no read is left alone after the gather. -/
theorem piccolos_next_of_idle
    (elsewhere : system.program.phase ≠ .genUpdateGather)
    {ref : Nat}
    (idle : (system.store.piccolos ref).outstanding = 0)
    {event : Event F}
    (continues : event.Continues) :
    (system.next ops event).store.piccolos ref =
      system.store.piccolos ref := by
  cases event with
  | start _ => exact continues.elim
  | tick saOutputs =>
      exact congrFun (piccolos_tick_of_not_gathering ops system.program
        system.store saOutputs elsewhere) ref
  | complete piccolo value =>
      by_cases same : ref = piccolo
      · subst same
        refine (Function.update_self _ _ _).trans ?_
        rw [onReadComplete, if_pos idle]
      · exact Function.update_of_ne same _ _
  | deliver _ | environment _ => rfl

theorem piccolos_after_of_idle
    (elsewhere : system.program.phase ≠ .genUpdateGather)
    {ref : Nat}
    (idle : (system.store.piccolos ref).outstanding = 0)
    {events : List (Event F)}
    (continue' : ∀ event ∈ events, event.Continues) :
    (Run.after (next ops) system events).store.piccolos ref =
      system.store.piccolos ref := by
  have kept : (Run.after (next ops) system events).program.phase ≠
        .genUpdateGather ∧
      (Run.after (next ops) system events).store.piccolos ref =
        system.store.piccolos ref := by
    apply Run.after_of_forall_mem
      (fun reached : VertexGather F =>
        reached.program.phase ≠ .genUpdateGather ∧
          reached.store.piccolos ref = system.store.piccolos ref)
    · rintro event isEvent reached ⟨notYet, same⟩
      have continues := continue' event isEvent
      refine ⟨not_gathering_next notYet continues, ?_⟩
      rw [← same] at idle ⊢
      exact piccolos_next_of_idle notYet idle continues
    · exact ⟨elsewhere, rfl⟩
  exact kept.2

end Steps

section Update

variable {ops : FloatOps F} {system : VertexGather F}
  {cfg : VertexProgramConfig} {events : UpdateEvents F} {vault : Fin 16}
  {ref : Nat}
  (passes : Passes ops system cfg events)
include passes

theorem Passes.gathers :
    Gathers ops system cfg (system.waiting ops cfg events)
      (system.drained ops cfg events) :=
  ⟨⟨events.gathering, passes.gatheringContinues, rfl⟩, passes.gathering,
    ⟨events.saOutputs, rfl⟩, passes.computing⟩

/-- No tick pushes but the one that ends the gather. -/
theorem Passes.onlyTakes :
    Run.Along (next ops) (OnlyTakes ops)
        (system.next ops (.start cfg)) events.gathering ∧
      Run.Along (next ops) (OnlyTakes ops)
        (system.drained ops cfg events) events.computing := by
  constructor
  · apply onlyTakes_along passes.gatheringContinues
    · change (system.waiting ops cfg events).program.phase.rank ≤ _
      rw [passes.gathering]
      decide
    · exact Or.inl passes.gathering
  · apply onlyTakes_along passes.computingContinues
    · change (system.leaving ops cfg events).program.phase.rank ≤ _
      rw [passes.leaving]
    · right
      rw [passes.computing]
      exact nofun

/-- The controller before the drain holds all the values of its batch. -/
theorem Passes.exists_full
    (buffers : system.DefaultBuffers)
    (attached : system.program.piccolos vault = some ref) :
    (system.gathered ops cfg events ref).db.contents =
        (system.drained ops cfg events).values ref ∧
      (system.gathered ops cfg events ref).outstanding = 0 ∧
        ((system.drained ops cfg events).values ref).length =
          cfg.numNeighbors.toNat := by
  obtain ⟨initial, starts, sound, count⟩ :=
    passes.gathers.exists_batch buffers attached
  have same : (system.drained ops cfg events).values ref =
      (system.waiting ops cfg events).values ref := rfl
  have values := sound.values
  have balance := sound.balance
  have completed := sound.completed
  have most := sound.issued_le
  have numElems := starts.numElems
  simp only [List.nil_append] at values balance completed most
  rw [same]
  refine ⟨values, ?_, count⟩
  change (system.gathered ops cfg events ref).issued =
    (system.gathered ops cfg events ref).completed +
      (system.gathered ops cfg events ref).outstanding at balance
  change _ = (system.gathered ops cfg events ref).completed at completed
  change (system.gathered ops cfg events ref).issued ≤ _ at most
  omega

theorem Passes.ownWaiting (own : system.program.OnePerVault) :
    (system.waiting ops cfg events).program.OnePerVault := by
  obtain ⟨samePiccolos, sameFeeders⟩ := passes.gathers.wiring
  constructor
  · rw [samePiccolos]
    exact own.piccolos
  · rw [sameFeeders]
    exact own.feeders

/-- The feeders of a vault before and after the drain. -/
theorem Passes.feederOf_eq (vault : Fin 16) :
    (system.waiting ops cfg events).feederOf vault =
        (system.program.feeders vault).map
          (system.waiting ops cfg events).store.feeders ∧
      (system.drained ops cfg events).feederOf vault =
        (system.program.feeders vault).map
          (system.drained ops cfg events).store.feeders := by
  have wiring := passes.gathers.wiring.2
  have sameDrained : (system.drained ops cfg events).program.feeders =
      (system.waiting ops cfg events).program.feeders :=
    (wiring_next _ _ _).2
  constructor
  · rw [feederOf, wiring]
  · rw [feederOf, sameDrained, wiring]

/-- The drain of a vault. -/
theorem Passes.buffersOf_drained
    (own : system.program.OnePerVault)
    (vault : Fin 16) :
    system.program.buffersOf (system.drained ops cfg events).store vault =
      drainBuffers ops
        ((system.program.piccolos vault).map (system.gathered ops cfg events),
          (system.waiting ops cfg events).feederOf vault) := by
  obtain ⟨samePiccolos, sameFeeders⟩ := passes.gathers.wiring
  obtain ⟨-, store, -⟩ := passes.gathers.ends
  have issued : ((system.waiting ops cfg events).program.issueAll
      (system.waiting ops cfg events).store).1.feeders =
        (system.waiting ops cfg events).store.feeders :=
    feeders_issueVaults _ _
  have buffers := buffersOf_drainAll ops (passes.ownWaiting own)
    ((system.waiting ops cfg events).program.issueAll
      (system.waiting ops cfg events).store).1 vault
  rw [← store] at buffers
  simp only [buffersOf, samePiccolos, sameFeeders, issued] at buffers
  rw [(passes.feederOf_eq vault).1]
  exact buffers

/-- A vault without a feeder is not drained. -/
theorem Passes.drained_of_no_feeder
    (own : system.program.OnePerVault)
    (attached : system.program.piccolos vault = some ref)
    (noFeeder : system.program.feeders vault = none) :
    (system.drained ops cfg events).store.piccolos ref =
      system.gathered ops cfg events ref := by
  have drained := congrArg Prod.fst (passes.buffersOf_drained own vault)
  rw [(passes.feederOf_eq vault).1] at drained
  simp only [buffersOf, attached, noFeeder, Option.map_some, Option.map_none,
    drainBuffers] at drained
  exact Option.some.inj drained

/-- A vault with a feeder is drained into it. -/
theorem Passes.drained_of_feeder
    (own : system.program.OnePerVault)
    (attached : system.program.piccolos vault = some ref)
    {feeder : Nat}
    (hasFeeder : system.program.feeders vault = some feeder) :
    (system.drained ops cfg events).store.piccolos ref =
        (takeValues 16 (system.gathered ops cfg events ref)).2 ∧
      (system.drained ops cfg events).feederOf vault =
        ((system.waiting ops cfg events).feederOf vault).map fun feeder =>
          feeder.pushVector (gatheredVec ops
            (takeValues 16 (system.gathered ops cfg events ref)).1) := by
  obtain ⟨before, after⟩ := passes.feederOf_eq vault
  have drained := passes.buffersOf_drained own vault
  rw [hasFeeder] at before after
  simp only [buffersOf, before, attached, hasFeeder, Option.map_some,
    drainBuffers, Prod.mk.injEq, Option.some.injEq] at drained
  refine ⟨drained.1, ?_⟩
  rw [before, after, Option.map_some, drained.2]
  rfl

/-- What stays in a data buffer stays there until the phase ends. -/
theorem Passes.left_eq
    (idle :
      ((system.drained ops cfg events).store.piccolos ref).outstanding = 0) :
    (system.leaving ops cfg events).store.piccolos ref =
      (system.drained ops cfg events).store.piccolos ref := by
  apply piccolos_after_of_idle _ idle passes.computingContinues
  rw [passes.computing]
  exact nofun

/-- Up to sixteen values reach the feeder of a vault. -/
theorem Passes.forwards
    (own : system.program.OnePerVault)
    (buffers : system.DefaultBuffers)
    (attached : system.program.piccolos vault = some ref)
    (fits : cfg.numNeighbors = 0 ∨
      cfg.numNeighbors.toNat ≤ 16 ∧
        system.program.feeders vault ≠ none) :
    Forwards ops system cfg events vault ref := by
  obtain ⟨contents, idle, count⟩ := passes.exists_full buffers attached
  obtain ⟨before, after⟩ := passes.onlyTakes
  have few : ((system.drained ops cfg events).values ref).length ≤ 16 := by
    rw [count]
    rcases fits with none | ⟨few, -⟩
    · rw [none]
      exact Nat.zero_le 16
    · exact few
  cases hasFeeder : system.program.feeders vault with
  | none =>
      have noNeighbors := fits.resolve_right fun fits => fits.2 hasFeeder
      have noValues : (system.drained ops cfg events).values ref = [] := by
        apply List.length_eq_zero_iff.mp
        rw [count, noNeighbors]
        rfl
      have undrained := passes.drained_of_no_feeder own attached hasFeeder
      refine ⟨⟨[], 0, ?_, fun _ => rfl, ?_⟩, before, after, ?_⟩
      · rw [(passes.feederOf_eq vault).1, (passes.feederOf_eq vault).2,
          hasFeeder]
        rfl
      · rw [noValues]
        rfl
      · rw [passes.left_eq (by rw [undrained]; exact idle), undrained,
          contents, noValues]
  | some feeder =>
      obtain ⟨drained, fed⟩ :=
        passes.drained_of_feeder own attached hasFeeder
      have left := takeValues_snd 16 (system.gathered ops cfg events ref)
      rw [takeValues_fst, contents, List.take_of_length_le few] at fed
      rw [contents, List.drop_of_length_le few, ← drained] at left
      refine ⟨⟨[gatheredVec ops ((system.drained ops cfg events).values ref)],
        16 - ((system.drained ops cfg events).values ref).length, fed, ?_, ?_⟩,
        before, after, ?_⟩
      · intro noFeeder
        rw [(passes.feederOf_eq vault).1, hasFeeder] at noFeeder
        exact absurd noFeeder nofun
      · rw [List.flatMap_singleton]
        exact ofFn_gatheredVec ops few
      · rw [passes.left_eq (left.2.trans idle)]
        exact left.1

/-- The lanes of one vector hold no more than sixteen values. -/
theorem Passes.fits_of_forwards
    (own : system.program.OnePerVault)
    (buffers : system.DefaultBuffers)
    (attached : system.program.piccolos vault = some ref)
    (forwards : Forwards ops system cfg events vault ref) :
    cfg.numNeighbors = 0 ∨
      cfg.numNeighbors.toNat ≤ 16 ∧
        system.program.feeders vault ≠ none := by
  obtain ⟨-, -, count⟩ := passes.exists_full buffers attached
  obtain ⟨vecs, padding, fed, unfed, lanes⟩ := forwards.pushed
  have waiting := (passes.feederOf_eq vault).1
  have total := congrArg List.length lanes
  rw [List.length_append, List.length_map, List.length_replicate, count]
    at total
  cases hasFeeder : system.program.feeders vault with
  | none =>
      left
      have nothing : vecs = [] := by
        apply unfed
        rw [waiting, hasFeeder]
        rfl
      rw [nothing, List.flatMap_nil, List.length_nil] at total
      apply UInt32.toNat_inj.mp
      change cfg.numNeighbors.toNat = 0
      omega
  | some feeder =>
      right
      refine ⟨?_, nofun⟩
      obtain ⟨-, once⟩ := passes.drained_of_feeder own attached hasFeeder
      have isFeeder : (system.waiting ops cfg events).feederOf vault =
          some ((system.waiting ops cfg events).store.feeders feeder) := by
        rw [waiting, hasFeeder]
        rfl
      rw [fed, isFeeder, Option.map_some, Option.map_some,
        Option.some.injEq] at once
      have lines := congrArg
        (fun feeder : ArrayFeeder F => (feeder.delayLines 0).length) once
      have single := ArrayFeeder.length_foldl_pushVector
        ((system.waiting ops cfg events).store.feeders feeder)
        [gatheredVec ops
          (takeValues 16 (system.gathered ops cfg events ref)).1]
      simp only [ArrayFeeder.length_foldl_pushVector] at lines
      have one : vecs.length = 1 :=
        Nat.add_left_cancel (lines.trans single)
      obtain ⟨vec, rfl⟩ := List.length_eq_one_iff.mp one
      rw [List.flatMap_singleton, List.length_ofFn] at total
      omega

end Update

/-- A vertex forwards all the values of its neighbors exactly when it has
none, or at most sixteen and a feeder in every vault that gathers. -/
theorem forwards_iff
    (ops : FloatOps F)
    (system : VertexGather F)
    (own : system.program.OnePerVault)
    (buffers : system.DefaultBuffers)
    (cfg : VertexProgramConfig)
    (events : UpdateEvents F)
    (passes : Passes ops system cfg events) :
    (∀ vault ref, system.program.piccolos vault = some ref →
      Forwards ops system cfg events vault ref) ↔
      ∀ vault ref, system.program.piccolos vault = some ref →
        cfg.numNeighbors = 0 ∨
          cfg.numNeighbors.toNat ≤ 16 ∧
            system.program.feeders vault ≠ none := by
  constructor
  · intro all vault ref attached
    exact passes.fits_of_forwards own buffers attached
      (all vault ref attached)
  · intro all vault ref attached
    exact passes.forwards own buffers attached (all vault ref attached)

/-! ## Seventeen neighbors -/

section Witness

/-- A vertex with one neighbor more than a vector has lanes. -/
def seventeenNeighbors : VertexProgramConfig :=
  { numNeighbors := 17, neighborOffsets := List.replicate 17 0 }

/-- Every read completes before the next tick. -/
def seventeenReads : UpdateEvents ℚ where
  gathering := (List.replicate 17 [.tick 0, .complete 0 7]).flatten
  saOutputs := 0
  computing := List.replicate 21 (.tick 0)

theorem passes_seventeenReads :
    Passes .atZero oneVault seventeenNeighbors seventeenReads := by
  constructor
  · intro event isEvent
    obtain ⟨pair, isPair, isEvent⟩ := List.mem_flatten.mp isEvent
    rw [List.eq_of_mem_replicate isPair] at isEvent
    rcases List.mem_cons.mp isEvent with rfl | isLast
    · trivial
    · rw [List.mem_singleton.mp isLast]
      trivial
  · intro event isEvent
    rw [List.eq_of_mem_replicate isEvent]
    trivial
  · decide +kernel
  · decide +kernel
  · decide +kernel

theorem onePerVault_oneVault : oneVault.program.OnePerVault := by
  have first (vault : Fin 16) (ref : Nat)
      (attached : (if vault = 0 then some 0 else none) = some ref) :
      vault = 0 := by
    by_contra other
    rw [if_neg other] at attached
    exact absurd attached nofun
  constructor
  · intro vault other ref isVault isOther
    exact (first vault ref isVault).trans (first other ref isOther).symm
  · intro vault other ref isVault isOther
    exact (first vault ref isVault).trans (first other ref isOther).symm

/-- The value of the seventeenth neighbor stays in the data buffer. -/
theorem seventeenReads_not_forwards :
    Passes .atZero oneVault seventeenNeighbors seventeenReads ∧
      ¬ ∀ vault ref, oneVault.program.piccolos vault = some ref →
        Forwards .atZero oneVault seventeenNeighbors seventeenReads vault
          ref := by
  refine ⟨passes_seventeenReads, ?_⟩
  intro all
  have emptied := (all 0 0 rfl).emptied
  revert emptied
  decide +kernel

theorem seventeenReads_forwards_iff :
    (∀ vault ref, oneVault.program.piccolos vault = some ref →
      Forwards .atZero oneVault seventeenNeighbors seventeenReads vault
        ref) ↔
      ∀ vault ref, oneVault.program.piccolos vault = some ref →
        seventeenNeighbors.numNeighbors = 0 ∨
          seventeenNeighbors.numNeighbors.toNat ≤ 16 ∧
            oneVault.program.feeders vault ≠ none :=
  forwards_iff .atZero oneVault onePerVault_oneVault defaultBuffers_oneVault
    seventeenNeighbors seventeenReads passes_seventeenReads

end Witness

end VertexGather

end PimGraphs
