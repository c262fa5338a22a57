import PimGraphs.Memory.FixedLatency
import PimGraphs.Simulator.CoreRefinement

/-!
# Programs in a run

A core that is done has had the effect of its program's instructions one at a
time, whatever else is attached and whenever the memory answers.
-/

namespace PimGraphs

namespace RamulatorHbmSimulator

variable {F M : Type}

/-- The identities a core's requests carry. -/
def wiring (simulator : RamulatorHbmSimulator F M) (ref : Nat) : Wiring where
  core := ref
  pcId := (simulator.store.cores ref).pcId
  piccolo := (simulator.store.cores ref).piccolo
  gatherPcId :=
    (simulator.store.piccolos (simulator.store.cores ref).piccolo).pcId
  elemBytes :=
    (simulator.store.piccolos (simulator.store.cores ref).piccolo).elemBytes

/-- A core has just loaded a program without GRU_UPDATE, nobody else uses its
controller, and nothing is on its way for either of them. -/
structure HasLoaded
    (simulator : RamulatorHbmSimulator F M)
    (ref : Nat)
    (numRegisters : UInt32)
    (program : List SIMDInstruction) : Prop where
  loaded : simulator.store.cores ref =
    (simulator.store.cores ref).loadProgram program
  size : (simulator.store.cores ref).registers.length = numRegisters.toNat
  supported : ∀ inst ∈ program, inst.Supported numRegisters
  noOffsets : (simulator.store.piccolos
    (simulator.wiring ref).piccolo).ob.size = 0
  obCap : (simulator.store.piccolos
    (simulator.wiring ref).piccolo).ob.cap = 256
  dbCap : (simulator.store.piccolos
    (simulator.wiring ref).piccolo).db.cap = 256
  exclusive : simulator.enter.Exclusive simulator.runConfig
    (simulator.wiring ref)
  noReply : NoneOnTheWay simulator.attached.router (.loadReply ref)
    simulator.enter.traffic
  noRead : NoneOnTheWay simulator.attached.router
    (.readComplete (simulator.wiring ref).piccolo) simulator.enter.traffic

variable [Zero F] [One F] [Add F] [Sub F] [Mul F] [Div F] [NatCast F]

/-- What a program of a core does, one instruction at a time. -/
def programOutcome
    (simulator : RamulatorHbmSimulator F M)
    (ref : Nat)
    (program : List SIMDInstruction) : Outcome F :=
  interpret simulator.ops (simulator.wiring ref) program
    { registers := (simulator.store.cores ref).registers }

/-- A core that has just loaded a program is ready for it. -/
theorem HasLoaded.heads_start
    {simulator : RamulatorHbmSimulator F M}
    {ref : Nat}
    {numRegisters : UInt32}
    {program : List SIMDInstruction}
    (hasLoaded : simulator.HasLoaded ref numRegisters program) :
    (CoreSystem.start (simulator.store.cores ref)
      (simulator.store.piccolos (simulator.wiring ref).piccolo)
        program).Heads simulator.ops (simulator.wiring ref) numRegisters
          (simulator.programOutcome ref program) := by
  refine Or.inl ⟨⟨rfl, rfl, rfl, hasLoaded.obCap, hasLoaded.dbCap,
    hasLoaded.size, rfl, hasLoaded.supported⟩, ⟨hasLoaded.noOffsets, rfl⟩,
    rfl, rfl, rfl, rfl⟩

/-- A core's registers, the loads it has handed over and the element reads of
its controller are those of a program. -/
structure HasExecuted
    (simulator : RamulatorHbmSimulator F M)
    (ref : Nat)
    (program : List SIMDInstruction)
    (state : RunState F M) : Prop where
  registers : (state.store.cores ref).registers =
    (simulator.programOutcome ref program).registers
  loads : requestsFor (.loadReply ref) state.driver.history =
    (simulator.programOutcome ref program).bursts
  reads : requestsFor (.readComplete (simulator.wiring ref).piccolo)
    state.driver.history = (simulator.programOutcome ref program).reads

/-- Whatever is attached and whenever the memory answers, it keeps its
controller and goes on working towards the outcome of its program. -/
theorem HasLoaded.heads_of_turns
    {simulator : RamulatorHbmSimulator F M}
    {ref : Nat}
    {numRegisters : UInt32}
    {program : List SIMDInstruction}
    (hasLoaded : simulator.HasLoaded ref numRegisters program)
    {state : RunState F M}
    (turns : RunState.Turns simulator.runConfig simulator.enter state) :
    (state.store.cores ref).piccolo = (simulator.wiring ref).piccolo ∧
      ∃ pushes, (state.coreSystem (simulator.wiring ref) pushes).Heads
        simulator.ops (simulator.wiring ref) numRegisters
          (simulator.programOutcome ref program) := by
  have proceeds := RunState.proceeds_turns hasLoaded.exclusive
    (Conserved.of_history_nil rfl : RunState.Conserves simulator.runConfig
      simulator.enter.traffic simulator.enter)
    hasLoaded.noReply hasLoaded.noRead turns
  obtain ⟨pushes, steps⟩ := proceeds.steps []
  have started : simulator.enter.coreSystem (simulator.wiring ref) [] =
      CoreSystem.start (simulator.store.cores ref)
        (simulator.store.piccolos (simulator.wiring ref).piccolo) program := by
    rw [CoreSystem.start, ← hasLoaded.loaded]
    rfl
  rw [started] at steps
  exact ⟨proceeds.exclusive.own, pushes, hasLoaded.heads_start.steps steps⟩

/-- A core that is done has arrived at this outcome. -/
theorem hasExecuted_of_heads
    {simulator : RamulatorHbmSimulator F M}
    {ref : Nat}
    {numRegisters : UInt32}
    {program : List SIMDInstruction}
    {state : RunState F M}
    {pushes : List (Vec16 F)}
    (heads : (state.coreSystem (simulator.wiring ref) pushes).Heads
      simulator.ops (simulator.wiring ref) numRegisters
        (simulator.programOutcome ref program))
    (done : (state.store.cores ref).isDone = true) :
    simulator.HasExecuted ref program state := by
  have outcome := heads.outcome_of_isDone done
  exact ⟨congrArg Outcome.registers outcome, congrArg Outcome.bursts outcome,
    congrArg Outcome.reads outcome⟩

/-- At every moment of a call, whatever is attached and whenever the memory
answers, a core that is done has executed its program. -/
theorem hasExecuted_of_isDone
    (simulator : RamulatorHbmSimulator F M)
    (ref : Nat)
    (numRegisters : UInt32)
    (program : List SIMDInstruction)
    (hasLoaded : simulator.HasLoaded ref numRegisters program)
    (cycles : Nat)
    (done : ((simulator.runState cycles).store.cores ref).isDone = true) :
    simulator.HasExecuted ref program (simulator.runState cycles) := by
  obtain ⟨count, stops⟩ := RunState.exists_stopsAfter simulator.runConfig
    cycles simulator.enter
  have same : simulator.runState cycles = simulator.before count :=
    stops.loop_eq
  rw [same] at done ⊢
  obtain ⟨-, pushes, heads⟩ := hasLoaded.heads_of_turns
    (RunState.turns_clocked simulator.runConfig simulator.enter count)
  exact hasExecuted_of_heads heads done

/-- A core that has loaded a load, a gather of two elements and a sum. -/
def loadedCore : RamulatorHbmSimulator ℚ (List (Nat × Nat)) :=
  let simulator := RamulatorHbmSimulator.initial FloatOps.atZero
    { ramulator := FixedLatency.ramulator 2 } []
  { simulator with
    store := simulator.store.setCore 0
      ((SIMDCore.initial 0 0 0 0 32).loadProgram CoreSystem.loadGatherAdd)
    attached :=
      { vpus := fun vault => if vault = 0 then some 0 else none
        router := some 0
        piccolo := some 0 } }

theorem ref_of_loadedCore
    {vault : Fin 16}
    {ref : Nat}
    (isAttached : loadedCore.attached.vpus vault = some ref) :
    ref = 0 := by
  have only : (if vault = 0 then some 0 else none) = some ref := isAttached
  split at only
  · exact (Option.some.inj only).symm
  · exact absurd only.symm (Option.some_ne_none ref)

theorem toDo_loadedCore :
    toDo loadedCore.attached.router loadedCore.enter.traffic = 0 :=
  (toDo_eq_zero_iff _ _).mpr ⟨fun _ _ => ⟨rfl, rfl⟩, fun _ => rfl, rfl⟩

theorem hasLoaded_loadedCore :
    loadedCore.HasLoaded 0 32 CoreSystem.loadGatherAdd := by
  have quiet (callback : Callback) : NoneOnTheWay loadedCore.attached.router
      callback loadedCore.enter.traffic := by
    intro burst member
    rw [toDo_loadedCore] at member
    exact absurd member (Multiset.notMem_zero burst)
  constructor
  case loaded => rfl
  case size => rfl
  case supported =>
    intro inst member
    simp only [CoreSystem.loadGatherAdd, List.mem_cons, List.not_mem_nil,
      or_false] at member
    rcases member with rfl | rfl | rfl
    all_goals constructor <;> decide
  case noOffsets => rfl
  case obCap => rfl
  case dbCap => rfl
  case exclusive =>
    refine ⟨rfl, fun vault ref isAttached notOwn => ?_, fun _ isAttached =>
      absurd isAttached.symm (Option.some_ne_none _)⟩
    exact absurd (ref_of_loadedCore isAttached) notOwn
  case noReply => exact quiet _
  case noRead => exact quiet _

theorem loadedCore_hasExecuted :
    loadedCore.HasExecuted 0 CoreSystem.loadGatherAdd
      (loadedCore.runState 100) :=
  hasExecuted_of_isDone loadedCore 0 32 CoreSystem.loadGatherAdd
    hasLoaded_loadedCore 100 (by decide +kernel)

end RamulatorHbmSimulator

end PimGraphs
