import PimGraphs.Compute.VertexProgram

/-!
# What a vault is left alone by

A vertex program that refers to neither the array nor the feeder of a vault,
or that does nothing, does not change them, and neither does a core that
refers to none of them.
-/

namespace PimGraphs

/-- Nothing that matters to a vault has changed: no core, no program, and
neither its array nor its feeder. -/
structure Store.SameVault
    {F : Type}
    (array feeder : Nat)
    (before after : Store F) : Prop where
  cores : after.cores = before.cores
  programs : after.programs = before.programs
  array : after.arrays array = before.arrays array
  feeder : after.feeders feeder = before.feeders feeder

namespace Store.SameVault

variable {F : Type} {array feeder : Nat}

theorem refl (store : Store F) : store.SameVault array feeder store :=
  ⟨rfl, rfl, rfl, rfl⟩

theorem trans
    {first middle last : Store F}
    (before : first.SameVault array feeder middle)
    (after : middle.SameVault array feeder last) :
    first.SameVault array feeder last :=
  ⟨after.cores.trans before.cores, after.programs.trans before.programs,
    after.array.trans before.array, after.feeder.trans before.feeder⟩

theorem setArray
    (store : Store F)
    {ref : Nat}
    (differs : ref ≠ array)
    (changed : SystolicArray F) :
    store.SameVault array feeder (store.setArray ref changed) :=
  ⟨rfl, rfl, Function.update_of_ne differs.symm _ _, rfl⟩

theorem setFeeder
    (store : Store F)
    {ref : Nat}
    (differs : ref ≠ feeder)
    (changed : ArrayFeeder F) :
    store.SameVault array feeder (store.setFeeder ref changed) :=
  ⟨rfl, rfl, rfl, Function.update_of_ne differs.symm _ _⟩

/-- A sweep of steps that leave the vault alone does so, too. -/
theorem foldl
    {State Key : Type}
    (store : State → Store F)
    {visit : State → Key → State}
    (alone : ∀ state key,
      (store state).SameVault array feeder (store (visit state key)))
    (keys : List Key)
    (start : State) :
    (store start).SameVault array feeder (store (keys.foldl visit start)) := by
  refine List.foldlRecOn
    (motive := fun reached =>
      (store start).SameVault array feeder (store reached)) _ _ (.refl _) ?_
  intro reached same key _
  exact same.trans (alone reached key)

end Store.SameVault

/-! ## The vertex program -/

namespace TGNVertexProgram

variable {F : Type} {array feeder : Nat}

/-- The program refers to neither an array nor a feeder. -/
structure Avoids
    (array feeder : Nat)
    (program : TGNVertexProgram F) : Prop where
  arrays : ∀ vault, program.systolicArrays vault ≠ some array
  feeders : ∀ vault, program.feeders vault ≠ some feeder

/-- The program refers to neither of them, or does nothing. -/
def Spares
    (array feeder : Nat)
    (program : TGNVertexProgram F) : Prop :=
  program.Avoids array feeder ∨ program.phase = .idle ∨
    program.phase = .done

section Visits

variable {program : TGNVertexProgram F} (avoids : program.Avoids array feeder)

theorem sameVault_issueVault
    (program : TGNVertexProgram F)
    (state : Store F × List MemoryBurst × Bool)
    (vault : Fin 16) :
    state.1.SameVault array feeder (program.issueVault state vault).1 := by
  unfold issueVault
  split
  · exact .refl _
  · exact ⟨rfl, rfl, rfl, rfl⟩

/-- The reads issued are those of gather controllers. -/
theorem reads_issueVault
    (program : TGNVertexProgram F)
    (state : Store F × List MemoryBurst × Bool)
    (vault : Fin 16)
    (gathers : ∀ burst ∈ state.2.1,
      ∃ ref, burst.onComplete = some (.readComplete ref)) :
    ∀ burst ∈ (program.issueVault state vault).2.1,
      ∃ ref, burst.onComplete = some (.readComplete ref) := by
  unfold issueVault
  split
  · exact gathers
  case h_2 ref _ =>
    obtain ⟨store, reads, allDone⟩ := state
    intro burst isRead
    rcases List.mem_append.mp isRead with earlier | new
    · exact gathers burst earlier
    · refine ⟨ref, ?_⟩
      unfold PiccoloGatherController.tickIssue at new
      split at new
      · obtain rfl := List.mem_singleton.mp new
        rfl
      · exact absurd new List.not_mem_nil

theorem reads_issueVaults
    (program : TGNVertexProgram F)
    (store : Store F)
    (vaults : List (Fin 16)) :
    ∀ burst ∈ (vaults.foldl program.issueVault (store, [], true)).2.1,
      ∃ ref, burst.onComplete = some (.readComplete ref) := by
  refine List.foldlRecOn
    (motive := fun state : Store F × List MemoryBurst × Bool =>
      ∀ burst ∈ state.2.1,
        ∃ ref, burst.onComplete = some (.readComplete ref)) _ _ ?_ ?_
  · intro burst none
    exact absurd none List.not_mem_nil
  · intro state gathers vault _
    exact reads_issueVault program state vault gathers

include avoids

theorem sameVault_drainVault
    [Zero F]
    (ops : FloatOps F)
    (store : Store F)
    (vault : Fin 16) :
    store.SameVault array feeder (drainVault ops program store vault) := by
  unfold drainVault
  split
  case h_1 ref _ hasFeeder _ =>
    have differs : ref ≠ feeder := fun same =>
      avoids.feeders vault (same ▸ hasFeeder)
    refine Store.SameVault.trans ?_ (.setFeeder _ differs _)
    exact ⟨rfl, rfl, rfl, rfl⟩
  case h_2 => exact .refl _

theorem sameVault_clockVault
    [Zero F]
    [Add F]
    [Mul F]
    (store : Store F)
    (vault : Fin 16) :
    store.SameVault array feeder (program.clockVault store vault) := by
  unfold clockVault
  split
  case h_1 arrayRef feederRef hasArray hasFeeder =>
    have differs : feederRef ≠ feeder := fun same =>
      avoids.feeders vault (same ▸ hasFeeder)
    have differsArray : arrayRef ≠ array := fun same =>
      avoids.arrays vault (same ▸ hasArray)
    exact (Store.SameVault.setFeeder store differs _).trans
      (.setArray _ differsArray _)
  case h_2 => exact .refl _

omit avoids in
theorem gruVault_avoids
    [Zero F]
    [One F]
    [Add F]
    [Sub F]
    [Mul F]
    (ops : FloatOps F)
    (state : TGNVertexProgram F × Store F × Nat)
    (avoids : state.1.Avoids array feeder)
    (vault : Fin 16) :
    (gruVault ops state vault).1.Avoids array feeder ∧
      state.2.1.SameVault array feeder (gruVault ops state vault).2.1 := by
  obtain ⟨program, store, doneCount⟩ := state
  unfold gruVault
  simp only
  split
  case h_1 arrayRef feederRef hasArray hasFeeder =>
    split
    · exact ⟨avoids, .refl _⟩
    · have differs : feederRef ≠ feeder := fun same =>
        avoids.feeders vault (same ▸ hasFeeder)
      have differsArray : arrayRef ≠ array := fun same =>
        avoids.arrays vault (same ▸ hasArray)
      exact ⟨⟨avoids.arrays, avoids.feeders⟩,
        (Store.SameVault.setArray store differsArray _).trans
          (.setFeeder _ differs _)⟩
  case h_2 => exact ⟨avoids, .refl _⟩

end Visits

/-- What a tick of the program does to a vault it spares. -/
structure TickSpares
    (array feeder : Nat)
    (store : Store F)
    (ticked : TGNVertexProgram F × Store F × List MemoryBurst) : Prop where
  spares : ticked.1.Spares array feeder
  same : store.SameVault array feeder ticked.2.1
  reads : ∀ burst ∈ ticked.2.2,
    ∃ ref, burst.onComplete = some (.readComplete ref)

theorem TickSpares.of_noReads
    {store after : Store F}
    {program : TGNVertexProgram F}
    (avoids : program.Avoids array feeder)
    (same : store.SameVault array feeder after) :
    TickSpares array feeder store (program, after, []) :=
  ⟨Or.inl avoids, same, fun _ none => absurd none List.not_mem_nil⟩

section Tick

variable [Zero F] (ops : FloatOps F) {program : TGNVertexProgram F}
  (avoids : program.Avoids array feeder) (store : Store F)
include avoids

theorem tickSpares_gather :
    TickSpares array feeder store (program.tickGenUpdateGather ops store) := by
  let counted : TGNVertexProgram F :=
    { program with gatherCycles := program.gatherCycles + 1 }
  have avoidsCounted : counted.Avoids array feeder :=
    ⟨avoids.arrays, avoids.feeders⟩
  have issued : store.SameVault array feeder
      ((List.finRange 16).foldl counted.issueVault (store, [], true)).1 :=
    Store.SameVault.foldl Prod.fst (sameVault_issueVault counted)
      (List.finRange 16) (store, [], true)
  have drained : store.SameVault array feeder
      ((List.finRange 16).foldl (counted.drainVault ops)
        ((List.finRange 16).foldl counted.issueVault (store, [], true)).1) :=
    issued.trans (Store.SameVault.foldl (fun reached : Store F => reached)
      (sameVault_drainVault avoidsCounted ops) (List.finRange 16) _)
  have reads := reads_issueVaults counted store (List.finRange 16)
  unfold tickGenUpdateGather
  simp only
  split
  · refine ⟨Or.inl ⟨avoids.arrays, avoids.feeders⟩, ?_, reads⟩
    dsimp only
    exact drained
  · exact ⟨Or.inl avoidsCounted, issued, reads⟩

omit ops in
theorem tickSpares_compute
    [Add F]
    [Mul F]
    (saOutputs : Fin 16 → Vec16 F) :
    TickSpares array feeder store
      ((program.tickGenUpdateCompute store saOutputs).1,
        (program.tickGenUpdateCompute store saOutputs).2, []) := by
  let counted : TGNVertexProgram F :=
    { program with computeCycles := program.computeCycles + 1 }
  have avoidsCounted : counted.Avoids array feeder :=
    ⟨avoids.arrays, avoids.feeders⟩
  have clocked : store.SameVault array feeder
      ((List.finRange 16).foldl counted.clockVault store) :=
    Store.SameVault.foldl (fun reached : Store F => reached)
      (sameVault_clockVault avoidsCounted) (List.finRange 16) store
  unfold tickGenUpdateCompute
  simp only
  split
  · exact .of_noReads ⟨avoids.arrays, avoids.feeders⟩ clocked
  · exact .of_noReads avoidsCounted clocked

omit [Zero F] ops in
theorem tickSpares_drain [Add F] :
    TickSpares array feeder store
      ((program.tickPsauDrain store).1, (program.tickPsauDrain store).2,
        []) := by
  unfold tickPsauDrain
  simp only
  split
  · exact .of_noReads ⟨avoids.arrays, avoids.feeders⟩ ⟨rfl, rfl, rfl, rfl⟩
  · split
    · exact .of_noReads ⟨avoids.arrays, avoids.feeders⟩ ⟨rfl, rfl, rfl, rfl⟩
    · exact .of_noReads ⟨avoids.arrays, avoids.feeders⟩ ⟨rfl, rfl, rfl, rfl⟩

theorem tickSpares_gru
    [One F]
    [Add F]
    [Sub F]
    [Mul F]
    [Div F]
    [NatCast F] :
    TickSpares array feeder store
      ((program.tickGru ops store).1, (program.tickGru ops store).2, []) := by
  let counted : TGNVertexProgram F :=
    { program with gruCycles := program.gruCycles + 1 }
  have ticked :
      ((List.finRange 16).foldl (gruVault ops)
        (counted, store, 0)).1.Avoids array feeder ∧
      store.SameVault array feeder ((List.finRange 16).foldl (gruVault ops)
        (counted, store, 0)).2.1 := by
    refine List.foldlRecOn
      (motive := fun state : TGNVertexProgram F × Store F × Nat =>
        state.1.Avoids array feeder ∧ store.SameVault array feeder state.2.1)
      _ _ ⟨⟨avoids.arrays, avoids.feeders⟩, .refl _⟩ ?_
    rintro state ⟨stateAvoids, same⟩ vault -
    have next := gruVault_avoids ops state stateAvoids vault
    exact ⟨next.1, same.trans next.2⟩
  unfold tickGru
  simp only
  split
  · exact .of_noReads ticked.1 ticked.2
  · exact .of_noReads ⟨ticked.1.arrays, ticked.1.feeders⟩ ticked.2

omit avoids in
theorem tickSpares_tick
    [One F]
    [Add F]
    [Sub F]
    [Mul F]
    [Div F]
    [NatCast F]
    (spares : program.Spares array feeder)
    (saOutputs : Fin 16 → Vec16 F) :
    TickSpares array feeder store (program.tick ops store saOutputs) := by
  have alone (after : TGNVertexProgram F)
      (afterSpares : after.Spares array feeder) :
      TickSpares array feeder store (after, store, []) :=
    ⟨afterSpares, .refl store, fun _ none => absurd none List.not_mem_nil⟩
  rcases spares with avoids | resting
  · have counted : program.countCycle.Avoids array feeder :=
      ⟨avoids.arrays, avoids.feeders⟩
    unfold tick
    cases program.phase with
    | idle => exact alone _ (Or.inl avoids)
    | done => exact alone _ (Or.inl avoids)
    | genUpdateGather => exact tickSpares_gather ops counted store
    | genUpdateCompute => exact tickSpares_compute counted store saOutputs
    | genUpdatePsauDrain => exact tickSpares_drain counted store
    | applyUpdateLoadH =>
        refine alone _ (Or.inl ?_)
        unfold tickLoadHiddenState
        simp only
        split
        · exact ⟨avoids.arrays, avoids.feeders⟩
        · exact ⟨avoids.arrays, avoids.feeders⟩
    | applyUpdateGru => exact tickSpares_gru ops counted store
    | writeback =>
        exact alone _ (Or.inl ⟨avoids.arrays, avoids.feeders⟩)
  · have rests : program.tick ops store saOutputs = (program, store, []) := by
      rcases resting with idle | done
      · simp only [tick, idle]
      · simp only [tick, done]
    rw [rests]
    exact alone program (Or.inr resting)

end Tick

end TGNVertexProgram

/-! ## The other cores -/

namespace SIMDCore

variable {F : Type}

/-- The core refers to neither an array nor a feeder. -/
structure Avoids (array feeder : Nat) (core : SIMDCore F) : Prop where
  array : core.gruSa ≠ some array
  gruFeeder : core.gruFeeder ≠ some feeder
  arrayFeeder : core.arrayFeeder ≠ feeder

/-- The same references, or fewer. -/
structure KeepsWiring (before after : SIMDCore F) : Prop where
  arrayFeeder : after.arrayFeeder = before.arrayFeeder
  gruSa : after.gruSa = before.gruSa ∨ after.gruSa = none
  gruFeeder : after.gruFeeder = before.gruFeeder ∨ after.gruFeeder = none

theorem KeepsWiring.refl (core : SIMDCore F) : core.KeepsWiring core :=
  ⟨rfl, Or.inl rfl, Or.inl rfl⟩

theorem KeepsWiring.avoids
    {array feeder : Nat}
    {before after : SIMDCore F}
    (keeps : before.KeepsWiring after)
    (avoids : before.Avoids array feeder) :
    after.Avoids array feeder := by
  refine ⟨?_, ?_, ?_⟩
  · rcases keeps.gruSa with same | none
    · rw [same]
      exact avoids.array
    · rw [none]
      exact (Option.some_ne_none _).symm
  · rcases keeps.gruFeeder with same | none
    · rw [same]
      exact avoids.gruFeeder
    · rw [none]
      exact (Option.some_ne_none _).symm
  · rw [keeps.arrayFeeder]
    exact avoids.arrayFeeder

theorem keepsWiring_onMemoryReply
    (core : SIMDCore F)
    (burstData : List F) :
    core.KeepsWiring (core.onMemoryReply burstData) := by
  unfold onMemoryReply
  split
  · exact .refl _
  · exact ⟨rfl, Or.inl rfl, Or.inl rfl⟩

theorem keepsWiring_drainDataBuffer
    (ops : FloatOps F)
    (fuel batchSize : Nat)
    (i : Int)
    (core : SIMDCore F)
    (piccolo : PiccoloGatherController) :
    core.KeepsWiring
      (drainDataBuffer ops fuel i batchSize core piccolo).1 := by
  induction fuel generalizing i core piccolo with
  | zero => exact .refl _
  | succ fuel inductionHypothesis =>
      rw [drainDataBuffer]
      split
      · have rest := inductionHypothesis (i + 1)
          { core with
            registers := core.registers.writeInt (core.pendingDestReg + i)
              (ops.ofBits piccolo.db.front) } piccolo.popDb
        exact ⟨rest.arrayFeeder, rest.gruSa, rest.gruFeeder⟩
      · exact .refl _

section Tick

variable [Zero F] [One F] [Add F] [Sub F] [Mul F] [Div F] [NatCast F]
variable (ops : FloatOps F) (this : Nat) (core : SIMDCore F)
variable (piccolo : PiccoloGatherController)
variable (hardware : Option (SystolicArray F × ArrayFeeder F))

omit [Sub F] in
theorem keepsWiring_issue (inst : SIMDInstruction) :
    core.KeepsWiring (core.issue ops this inst piccolo hardware).core := by
  unfold issue
  split
  case h_4 =>
    split
    · exact .refl _
    · exact ⟨rfl, Or.inl rfl, Or.inl rfl⟩
  all_goals exact ⟨rfl, Or.inl rfl, Or.inl rfl⟩

omit [Zero F] [One F] [Add F] [Sub F] [Mul F] [Div F] [NatCast F] in
theorem keepsWiring_tickPiccoloWait :
    core.KeepsWiring (core.tickPiccoloWait ops piccolo).1 := by
  cases done : piccolo.done with
  | false =>
      rw [tickPiccoloWait, done]
      exact .refl _
  | true =>
      have kept := keepsWiring_drainDataBuffer ops piccolo.db.size
        piccolo.numElems 0 core piccolo
      rcases drained : drainDataBuffer ops piccolo.db.size 0 piccolo.numElems
        core piccolo with ⟨after, rest⟩
      rw [drained] at kept
      have ticked :
          core.tickPiccoloWait ops piccolo = (after.resume, rest) := by
        simp only [tickPiccoloWait, done, drained, if_true]
      rw [ticked]
      exact ⟨kept.arrayFeeder, kept.gruSa, kept.gruFeeder⟩

omit [Div F] [NatCast F] in
theorem keepsWiring_tickGruWait :
    core.KeepsWiring (core.tickGruWait ops hardware).1 := by
  unfold tickGruWait
  cases hardware with
  | none => exact .refl _
  | some lent =>
      obtain ⟨sa, feeder⟩ := lent
      cases ready : (GRUCell.tick ops
          ⟨core.gruCell, sa, feeder⟩).cell.isDone with
      | false =>
          simp only [ready, Bool.false_eq_true, if_false]
          constructor
          all_goals simp
      | true =>
          simp only [ready, if_true]
          constructor
          all_goals simp

theorem keepsWiring_tick :
    core.KeepsWiring (core.tick ops this piccolo hardware).core := by
  unfold tick
  split
  · exact keepsWiring_tickPiccoloWait ops core piccolo
  · split
    · exact keepsWiring_tickGruWait ops core hardware
    · split
      · exact .refl _
      · split
        · exact .refl _
        · exact keepsWiring_issue ops this core piccolo hardware _

omit [Sub F] in
theorem onComplete_request_issue
    (inst : SIMDInstruction)
    {burst : MemoryBurst}
    (requested :
      (core.issue ops this inst piccolo hardware).request = some burst) :
    burst.onComplete = some (.loadReply this) := by
  unfold issue at requested
  split at requested
  case h_2 =>
    obtain rfl := Option.some.inj requested
    rfl
  case h_4 =>
    split at requested
    · simp at requested
    · simp at requested
  all_goals simp at requested

/-- A core asks for replies to itself only. -/
theorem onComplete_request_tick
    {burst : MemoryBurst}
    (requested :
      (core.tick ops this piccolo hardware).request = some burst) :
    burst.onComplete = some (.loadReply this) := by
  unfold tick at requested
  split at requested
  · simp at requested
  · split at requested
    · simp at requested
    · split at requested
      · simp at requested
      · split at requested
        · simp at requested
        · exact onComplete_request_issue ops this core piccolo hardware _
            requested

end Tick

/-- What a core gives back and pushes does not touch an array and a feeder it
does not refer to. -/
theorem sameVault_installTick
    [Zero F]
    {array feeder : Nat}
    {core : SIMDCore F}
    (avoids : core.Avoids array feeder)
    (ref : Nat)
    (store : Store F)
    (result : TickResult F) :
    ((store.setCore ref result.core).setPiccolo core.piccolo
      result.piccolo).SameVault array feeder
        (core.installTick ref store result) := by
  let ticked : Store F :=
    (store.setCore ref result.core).setPiccolo core.piccolo result.piccolo
  have returned {sa lines : Nat} (isArray : core.gruSa = some sa)
      (isFeeder : core.gruFeeder = some lines) (lent : SystolicArray F)
      (lentLines : ArrayFeeder F) :
      ticked.SameVault array feeder
        ((ticked.setArray sa lent).setFeeder lines lentLines) := by
    have differs : sa ≠ array := fun same => avoids.array (same ▸ isArray)
    have differsFeeder : lines ≠ feeder := fun same =>
      avoids.gruFeeder (same ▸ isFeeder)
    exact (Store.SameVault.setArray ticked differs lent).trans
      (.setFeeder _ differsFeeder lentLines)
  unfold installTick
  cases result.pushed with
  | none =>
      simp only
      split
      case h_1 isArray isFeeder _ => exact returned isArray isFeeder _ _
      case h_2 => exact .refl _
  | some vec =>
      refine Store.SameVault.trans ?_ (.setFeeder _ avoids.arrayFeeder _)
      split
      case h_1 isArray isFeeder _ => exact returned isArray isFeeder _ _
      case h_2 => exact .refl _

/-- What the tick of a core that refers to neither leaves of an array and a
feeder, and of the other cores. -/
structure InstallAvoids
    (array feeder ref : Nat)
    (store after : Store F) : Prop where
  cores : ∀ other, other ≠ ref → after.cores other = store.cores other
  programs : after.programs = store.programs
  array : after.arrays array = store.arrays array
  feeder : after.feeders feeder = store.feeders feeder

theorem installAvoids_installTick
    [Zero F]
    {array feeder : Nat}
    {core : SIMDCore F}
    (avoids : core.Avoids array feeder)
    (ref : Nat)
    (store : Store F)
    (result : TickResult F) :
    InstallAvoids array feeder ref store (core.installTick ref store result) ∧
      (core.installTick ref store result).cores ref = result.core := by
  obtain ⟨cores, programs, sameArray, sameFeeder⟩ :=
    sameVault_installTick avoids ref store result
  refine ⟨⟨?_, programs, sameArray, sameFeeder⟩, ?_⟩
  · intro other differs
    rw [cores]
    exact Function.update_of_ne differs _ _
  · rw [cores]
    exact Function.update_self _ _ _

end SIMDCore

end PimGraphs
