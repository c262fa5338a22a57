import PimGraphs.Compute.VertexRun

/-!
# Loads of the hidden state

While a program waits for the hidden state of its vertex, callbacks can be made
that deliver it.  A callback captures the program and not the vertex, so the
program tells a late delivery from its own only by the flag that the start of
a vertex and the end of a drain clear.  Each callback is tagged here with the
vertex it was made for; the tags are not part of the program.
-/

namespace PimGraphs

open TGNVertexProgram

/-- The last callback invoked since a vertex was started. -/
structure Delivery (F : Type) where
  /-- The vertex the callback was made for. -/
  madeFor : Nat
  payload : Vec16 F

/-- One start of the GRU cells. -/
structure CellStart (F : Type) where
  vertex : Nat
  /-- The hidden state each cell was started with. -/
  hPrev : Fin 16 → Vec16 F
  delivery : Option (Delivery F)

/-- A program on its hardware, with the callbacks it has returned.  Vertices
are numbered in the order of their starts. -/
structure LoadSystem (F : Type) where
  machine : VertexSystem F
  vertex : Nat := 0
  /-- The vertex each callback was made for. -/
  callbacks : List Nat := []
  delivery : Option (Delivery F) := none
  starts : List (CellStart F) := []

namespace LoadSystem

variable {F : Type}

/-- What happens to the program and its callbacks.  A callback may be invoked
at any time and any number of times. -/
inductive Event (F : Type)
  | start (cfg : VertexProgramConfig)
  | tick (saOutputs : Fin 16 → Vec16 F)
  | environment (store : Store F)
  | makeCallback
  | invoke (callback : Nat) (payload : Vec16 F)

/-- The program waits for the hidden state of its vertex. -/
def Loading (system : LoadSystem F) : Prop :=
  system.machine.program.phase = .applyUpdateLoadH

instance (system : LoadSystem F) : Decidable system.Loading :=
  inferInstanceAs (Decidable (_ = _))

/-- Record that the cells were started in a tick. -/
def recordStart (system : LoadSystem F) (after : VertexSystem F) :
    List (CellStart F) :=
  if system.Loading ∧ after.program.phase = .applyUpdateGru then
    system.starts ++
      [{ vertex := system.vertex
         hPrev := fun vault => (after.program.gruCells vault).hPrev
         delivery := system.delivery }]
  else system.starts

section Step

variable [Zero F] [One F] [Add F] [Sub F] [Mul F] [Div F] [NatCast F]

/-- One event.  Callbacks are made while the program waits for a hidden state,
and only callbacks that were made can be invoked. -/
def next (ops : FloatOps F) (system : LoadSystem F) :
    Event F → LoadSystem F
  | .start cfg =>
      { system with
        machine := system.machine.next ops (.start cfg)
        vertex := system.vertex + 1
        delivery := none }
  | .tick saOutputs =>
      let after := system.machine.next ops (.tick saOutputs)
      { system with
        machine := after
        starts := system.recordStart after }
  | .environment store =>
      { system with machine := system.machine.next ops (.environment store) }
  | .makeCallback =>
      if system.Loading then
        { system with callbacks := system.callbacks ++ [system.vertex] }
      else system
  | .invoke callback payload =>
      match system.callbacks[callback]? with
      | none => system
      | some madeFor =>
          { system with
            machine := system.machine.next ops (.deliver payload)
            delivery := some { madeFor, payload } }

end Step

/-- The load of the current vertex is satisfied by a callback made for it, and
so was every load the cells were started with. -/
structure OwnLoads (system : LoadSystem F) : Prop where
  satisfied : system.Loading → system.machine.program.hLoadDone = true →
    ∃ payload, system.delivery = some ⟨system.vertex, payload⟩ ∧
      system.machine.program.prevHiddenState = payload
  started : ∀ start ∈ system.starts, ∃ payload,
    start.delivery = some ⟨start.vertex, payload⟩ ∧
      ∀ vault, start.hPrev vault = payload

/-- A callback made for an earlier vertex is not invoked while the program
waits for the hidden state of the current one. -/
def NotLate (system : LoadSystem F) (event : Event F) : Prop :=
  ∀ callback payload, event = .invoke callback payload → system.Loading →
    ∀ madeFor ∈ system.callbacks[callback]?, ¬ madeFor < system.vertex

/-- What holds of the loads whenever the callbacks are invoked. -/
structure Traced (system : LoadSystem F) : Prop where
  callbacks : ∀ madeFor ∈ system.callbacks, madeFor ≤ system.vertex
  delivered : system.machine.program.hLoadDone = true →
    ∃ delivery, system.delivery = some delivery ∧
      system.machine.program.prevHiddenState = delivery.payload

section Events

variable [Zero F] [One F] [Add F] [Sub F] [Mul F] [Div F] [NatCast F]
  (ops : FloatOps F) {system : LoadSystem F}

theorem next_invoke_of_made
    {callback madeFor : Nat}
    (made : system.callbacks[callback]? = some madeFor)
    (payload : Vec16 F) :
    system.next ops (.invoke callback payload) =
      { system with
        machine := system.machine.next ops (.deliver payload)
        delivery := some { madeFor, payload } } := by
  simp only [next, made]

theorem next_invoke_of_not_made
    {callback : Nat}
    (notMade : system.callbacks[callback]? = none)
    (payload : Vec16 F) :
    system.next ops (.invoke callback payload) = system := by
  simp only [next, notMade]

theorem next_makeCallback (loading : system.Loading) :
    system.next ops .makeCallback =
      { system with callbacks := system.callbacks ++ [system.vertex] } := by
  simp only [next, if_pos loading]

theorem next_makeCallback_of_not_loading (notLoading : ¬ system.Loading) :
    system.next ops .makeCallback = system := by
  simp only [next, if_neg notLoading]

/-- What a tick does to a load. -/
structure TicksLoad (before after : TGNVertexProgram F) : Prop where
  prevHiddenState : after.prevHiddenState = before.prevHiddenState
  hLoadDone : after.hLoadDone = true → before.hLoadDone = true
  waits : after.phase = .applyUpdateLoadH → after.hLoadDone = false
  starts : before.phase = .applyUpdateLoadH →
    after.phase = .applyUpdateGru →
      before.hLoadDone = true ∧
        ∀ vault, (after.gruCells vault).hPrev = before.prevHiddenState

/-- A tick never delivers a hidden state, and starts the cells only on one that
has been delivered. -/
theorem ticksLoad
    (program : TGNVertexProgram F)
    (store : Store F)
    (saOutputs : Fin 16 → Vec16 F) :
    TicksLoad program (program.tick ops store saOutputs).1 := by
  by_cases loading : program.phase = .applyUpdateLoadH
  · cases delivered : program.hLoadDone with
    | false =>
        rw [tick_waiting ops program store saOutputs loading delivered]
        constructor <;> simp [loading, delivered]
    | true =>
        rw [tick_delivered ops program store saOutputs loading delivered]
        constructor <;> simp [delivered, GRUCell.start]
  · by_cases updating : program.phase = .applyUpdateGru
    · obtain ⟨cells, -, goesOn | ends⟩ := tick_updating_cases ops program
        store saOutputs updating (fun _ => True) (fun _ _ => trivial)
        (fun _ => trivial)
      · rw [goesOn]
        constructor <;> simp [updating]
      · rw [ends]
        constructor <;> simp
    · have prepares := prepares_tick ops program store saOutputs loading
        updating
      exact ⟨prepares.prevHiddenState, prepares.hLoadDone, prepares.waits,
        fun waited => absurd waited loading⟩

/-- The record of the loads is kept by every event. -/
theorem Traced.next (traced : system.Traced) (event : Event F) :
    (system.next ops event).Traced := by
  cases event with
  | start cfg =>
      refine ⟨?_, fun delivered => Bool.noConfusion delivered⟩
      intro madeFor isCallback
      exact Nat.le_succ_of_le (traced.callbacks madeFor isCallback)
  | tick saOutputs =>
      have ticked := ticksLoad ops system.machine.program system.machine.store
        saOutputs
      refine ⟨traced.callbacks, ?_⟩
      intro delivered
      obtain ⟨delivery, isDelivery, isState⟩ :=
        traced.delivered (ticked.hLoadDone delivered)
      exact ⟨delivery, isDelivery, ticked.prevHiddenState.trans isState⟩
  | environment store => exact ⟨traced.callbacks, traced.delivered⟩
  | makeCallback =>
      by_cases loading : system.Loading
      · rw [next_makeCallback ops loading]
        refine ⟨?_, traced.delivered⟩
        intro madeFor isCallback
        rcases List.mem_append.mp isCallback with earlier | isNew
        · exact traced.callbacks madeFor earlier
        · exact (List.mem_singleton.mp isNew).le
      · rw [next_makeCallback_of_not_loading ops loading]
        exact traced
  | invoke callback payload =>
      cases made : system.callbacks[callback]? with
      | none =>
          rw [next_invoke_of_not_made ops made]
          exact traced
      | some madeFor =>
          rw [next_invoke_of_made ops made]
          exact ⟨traced.callbacks, fun _ => ⟨_, rfl, rfl⟩⟩

/-- An event that is not late keeps the loads of the vertices apart. -/
theorem OwnLoads.next
    (own : system.OwnLoads)
    (traced : system.Traced)
    {event : Event F}
    (notLate : system.NotLate event) :
    (system.next ops event).OwnLoads := by
  cases event with
  | start cfg =>
      exact ⟨fun _ delivered => Bool.noConfusion delivered, own.started⟩
  | tick saOutputs =>
      have ticked := ticksLoad ops system.machine.program system.machine.store
        saOutputs
      constructor
      · intro loading delivered
        have notDelivered := ticked.waits loading
        exact Bool.noConfusion (notDelivered.symm.trans delivered)
      · intro start isStart
        unfold LoadSystem.next recordStart at isStart
        simp only at isStart
        split at isStart
        case isFalse _ => exact own.started start isStart
        case isTrue begins =>
          rcases List.mem_append.mp isStart with earlier | isNew
          · exact own.started start earlier
          · obtain ⟨delivered, given⟩ := ticked.starts begins.1 begins.2
            obtain ⟨payload, isDelivery, isState⟩ :=
              own.satisfied begins.1 delivered
            rw [List.mem_singleton.mp isNew]
            exact ⟨payload, isDelivery, fun vault =>
              (given vault).trans isState⟩
  | environment store => exact ⟨own.satisfied, own.started⟩
  | makeCallback =>
      by_cases loading : system.Loading
      · rw [next_makeCallback ops loading]
        exact ⟨own.satisfied, own.started⟩
      · rw [next_makeCallback_of_not_loading ops loading]
        exact own
  | invoke callback payload =>
      cases made : system.callbacks[callback]? with
      | none =>
          rw [next_invoke_of_not_made ops made]
          exact own
      | some madeFor =>
          rw [next_invoke_of_made ops made]
          refine ⟨?_, own.started⟩
          intro loading _
          have notEarlier : ¬ madeFor < system.vertex :=
            notLate callback payload rfl loading madeFor made
          have notLater := traced.callbacks madeFor
            (List.mem_of_getElem? made)
          have same : madeFor = system.vertex := by omega
          rw [same]
          exact ⟨payload, rfl, rfl⟩

/-- An event after which the loads are the vertices' own was not late. -/
theorem OwnLoads.notLate
    {event : Event F}
    (own : (system.next ops event).OwnLoads) :
    system.NotLate event := by
  rintro callback payload rfl loading madeFor made
  rw [next_invoke_of_made ops made] at own
  obtain ⟨_, isDelivery, -⟩ := own.satisfied loading rfl
  have same : madeFor = system.vertex :=
    congrArg Delivery.madeFor (Option.some.inj isDelivery)
  exact same.not_lt

end Events

/-! ## Runs -/

/-- A newly built program that has returned no callback. -/
def built [Zero F] [One F]
    (piccolos : Fin 16 → Option Nat)
    (psau : Nat)
    (systolicArrays feeders : Fin 16 → Option Nat)
    (wR wZ wIn wHn : Weights F)
    (bR bZ bIn bHn : Vec16 F)
    (store : Store F) : LoadSystem F where
  machine := VertexSystem.built piccolos psau systolicArrays feeders
    wR wZ wIn wHn bR bZ bIn bHn store

section Runs

variable [Zero F] [One F] [Add F] [Sub F] [Mul F] [Div F] [NatCast F]
  (ops : FloatOps F) (piccolos : Fin 16 → Option Nat) (psau : Nat)
  (systolicArrays feeders : Fin 16 → Option Nat)
  (wR wZ wIn wHn : Weights F) (bR bZ bIn bHn : Vec16 F) (store : Store F)

/-- Every vertex is evaluated on its own hidden state in exactly the runs in
which no callback of an earlier vertex is invoked while a later one waits. -/
theorem ownLoads_iff_notLate (events : List (Event F)) :
    Run.Always (next ops) OwnLoads
        (built piccolos psau systolicArrays feeders wR wZ wIn wHn bR bZ bIn
          bHn store) events ↔
      Run.Along (next ops) NotLate
        (built piccolos psau systolicArrays feeders wR wZ wIn wHn bR bZ bIn
          bHn store) events := by
  constructor
  · intro always before event isPrefix
    exact (always.along_next before event isPrefix).notLate ops
  · intro along before isPrefix
    have initially : (built (F := F) piccolos psau systolicArrays feeders wR wZ
        wIn wHn bR bZ bIn bHn store).Traced ∧
        (built piccolos psau systolicArrays feeders wR wZ wIn wHn bR bZ bIn
          bHn store).OwnLoads :=
      ⟨⟨List.forall_mem_nil _, fun delivered => Bool.noConfusion delivered⟩,
        ⟨fun _ delivered => Bool.noConfusion delivered,
          List.forall_mem_nil _⟩⟩
    have kept : ∀ system event, system.Traced ∧ system.OwnLoads →
        NotLate system event →
        (next ops system event).Traced ∧ (next ops system event).OwnLoads :=
      fun _ event both notLate =>
        ⟨both.1.next ops event, both.2.next ops both.1 notLate⟩
    exact (along.always kept initially before isPrefix).2

end Runs

/-! ## A late delivery -/

/-- All vaults attached, identity weights and no biases. -/
def attached : LoadSystem ℚ :=
  built (fun vault => some vault.val) 0 (fun vault => some vault.val)
    (fun vault => some vault.val) GRUCell.identityWeights
    GRUCell.identityWeights GRUCell.identityWeights GRUCell.identityWeights
    0 0 0 0 Store.initial

/-- A vertex without neighbors up to the load of its hidden state. -/
def untilLoad (hiddenStateAddr : UInt64) : List (Event ℚ) :=
  .start { hiddenStateAddr } :: List.replicate 22 (.tick 0)

/-- The read of a vertex is still in flight when the next one is started, and
comes back while that one waits. -/
def lateDelivery : List (Event ℚ) :=
  untilLoad 64 ++ [.makeCallback] ++ untilLoad 128 ++
    [.makeCallback, .invoke 0 1, .tick 0]

/-- The second vertex of `lateDelivery` is evaluated on the hidden state of the
first. -/
theorem lateDelivery_not_ownLoads :
    ¬ Run.Always (next .atZero) OwnLoads attached lateDelivery := by
  intro always
  have own := always lateDelivery (List.prefix_refl _)
  have starts : (Run.after (next .atZero) attached lateDelivery).starts.map
      (fun start => (start.vertex, start.delivery.map Delivery.madeFor)) =
        [(2, some 1)] := by
    decide +kernel
  obtain ⟨start, isStart, pair⟩ := List.mem_map.mp
    (starts ▸ List.mem_singleton_self (2, some 1))
  obtain ⟨payload, isDelivery, -⟩ := own.started start isStart
  rw [isDelivery] at pair
  have vertex : start.vertex = 2 := congrArg Prod.fst pair
  have madeFor : start.vertex = 1 := Option.some.inj (congrArg Prod.snd pair)
  omega

end LoadSystem

end PimGraphs
