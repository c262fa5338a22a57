import PimGraphs.Compute.VertexProgram
import PimGraphs.Simulator.Admission

/-!
# The simulator loop

`run` clocks the attached components, the router, the admission of bursts and
the memory until nothing is left to do or the cycle budget is spent.  Its
counters are locals: they start at zero, and the callbacks of reads that are
still in flight when it returns no longer reach any counter.
-/

namespace PimGraphs

/-- The pointers set by the `attach_` functions. -/
structure Attached where
  vpus : Fin 16 → Option Nat := fun _ => none
  feeders : Fin 16 → Option Nat := fun _ => none
  systolicArrays : Fin 16 → Option Nat := fun _ => none
  psau : Option Nat := none
  router : Option Nat := none
  piccolo : Option Nat := none
  vertexProgram : Option Nat := none

/-- The simulator and the objects attached to it. -/
structure RamulatorHbmSimulator (F M : Type) where
  attached : Attached
  ops : FloatOps F
  admission : AdmissionConfig M
  store : Store F
  mux : PseudoChannelMultiplexer
  memory : M
  inflight : List (Nat × Request)
  nextSlot : Nat

/-- What `run` returns.  `verticesProcessed` is 32-bit in the source, so a
natural number stands for it up to 2^32 - 1 vertices in one call. -/
structure SimulationResult where
  memoryCycles : Nat
  bytesMoved : Nat
  burstsCompleted : Nat
  tsvBytesAdmitted : Nat
  verticesProcessed : Nat
  vertexProgramStats : VertexProgramStats
  deriving DecidableEq, Repr

/-- Everything a call of `run` changes: the components, the driver and the
call's remaining locals. -/
@[ext] structure RunState (F M : Type) where
  store : Store F
  driver : Driver M
  loadHIssued : Bool := false
  verticesProcessed : Nat := 0
  vertexProgramStats : VertexProgramStats := {}
  cycles : Nat := 0

/-- What a call of `run` depends on and never changes. -/
structure RunConfig (F M : Type) where
  attached : Attached
  ops : FloatOps F
  admission : AdmissionConfig M

namespace RunState

variable {F M : Type}

/-- Hand bursts to a router. -/
def route
    (state : RunState F M)
    (router : Nat)
    (producer : Producer)
    (bursts : List MemoryBurst) : RunState F M :=
  { state with
    store := state.store.setRouter router
      (bursts.foldl HierarchicalRouter.enqueueRequest
        (state.store.routers router))
    driver := state.driver.recordRouted router producer bursts }

/-- Whether an attached core is still executing instructions. -/
def vpuBusy (config : RunConfig F M) (state : RunState F M) : Bool :=
  (List.finRange 16).any fun vault =>
    match config.attached.vpus vault with
    | none => false
    | some ref => !(state.store.cores ref).isDone

/-- Whether an attached gather controller is still gathering. -/
def piccoloBusy (config : RunConfig F M) (state : RunState F M) : Bool :=
  match config.attached.piccolo with
  | none => false
  | some ref => !(state.store.piccolos ref).done

/-- Whether an attached vertex program is still running. -/
def programBusy (config : RunConfig F M) (state : RunState F M) : Bool :=
  match config.attached.vertexProgram with
  | none => false
  | some ref => !(state.store.programs ref).isDone

/-- The loop's test for remaining work. -/
def hasWork (config : RunConfig F M) (state : RunState F M) : Bool :=
  state.vpuBusy config || state.piccoloBusy config ||
    state.programBusy config ||
    decide (0 < state.driver.mux.totalPendingBursts) ||
    decide (0 < state.driver.outstandingRequests)

/-- The attached gather controller's issue tick, unless it is done. -/
def issuePiccolo (config : RunConfig F M) (state : RunState F M) :
    RunState F M :=
  match config.attached.piccolo with
  | none => state
  | some ref =>
      if (state.store.piccolos ref).done then state else
        let (controller, read) := (state.store.piccolos ref).tickIssue ref
        { state with
          store := state.store.setPiccolo ref controller
          driver := state.driver.enqueueAll none read.toList }

/-- The attached router's tick. -/
def tickRouter (config : RunConfig F M) (state : RunState F M) :
    RunState F M :=
  match config.attached.router with
  | none => state
  | some ref =>
      let (router, delivered) := (state.store.routers ref).tick
      { state with
        store := state.store.setRouter ref router
        driver := state.driver.enqueueAll (some ref) delivered }

/-- The write-back of a fully reduced vector. -/
def psauWriteback : MemoryBurst where
  addr := 0x80000000
  sizeBytes := 64
  pcId := 0

/-- The read of the previous hidden state. -/
def hiddenLoad (program : Nat) (addr : UInt64) : MemoryBurst where
  addr := addr
  sizeBytes := 64
  pcId := 0
  onComplete := some (.loadHidden program)

/-- The write-back of a vertex's new hidden state. -/
def vertexWriteback (addr : UInt64) : MemoryBurst where
  addr := addr
  sizeBytes := 64
  pcId := 0

/-- Request the hidden state once the program waits for it. -/
def requestHidden
    (config : RunConfig F M)
    (state : RunState F M)
    (ref : Nat) : RunState F M :=
  let program := state.store.programs ref
  match config.attached.router with
  | none => state
  | some router =>
      if program.phase = .applyUpdateLoadH ∧ state.loadHIssued = false then
        { state.route router .hiddenLoad
            [hiddenLoad ref program.cfg.hiddenStateAddr] with
          loadHIssued := true }
      else state

/-- Write a ready result back. -/
def writebackVertex
    (config : RunConfig F M)
    (state : RunState F M)
    (ref : Nat) : RunState F M :=
  let program := state.store.programs ref
  match config.attached.router with
  | none => state
  | some router =>
      if program.writebackReady then
        { state.route router .vertexWriteback
            [vertexWriteback program.cfg.outputAddr] with
          loadHIssued := false
          verticesProcessed := state.verticesProcessed + 1 }
      else state

/-- Copy the program's statistics once it is done. -/
def recordStats (state : RunState F M) (ref : Nat) : RunState F M :=
  if (state.store.programs ref).isDone then
    { state with vertexProgramStats := (state.store.programs ref).getStats }
  else state

/-- The wave loop. -/
def runAdmission
    (config : RunConfig F M)
    (state : RunState F M) : RunState F M :=
  { state with
    driver := (state.driver.admissionLoop config.admission).driver }

section Memory

variable [Zero F] [One F]

/-- Effect of a burst's own callback on the components. -/
def runCallback (store : Store F) : Callback → Store F
  | .readComplete ref =>
      store.setPiccolo ref ((store.piccolos ref).onReadComplete 0)
  | .loadReply ref =>
      store.setCore ref
        ((store.cores ref).onMemoryReply (List.replicate 16 1))
  | .loadHidden ref =>
      store.setProgram ref ((store.programs ref).deliverHidden 0)
  | .host _ => store

/-- The callback of one fired slot, and the burst's own callback. -/
def completeSlot (state : RunState F M) (slot : Nat) : RunState F M :=
  let (driver, callback) := state.driver.finish slot
  match callback with
  | none => { state with driver := driver }
  | some callback =>
      { state with
        driver := driver.recordRun slot callback
        store := runCallback state.store callback }

/-- The memory's tick and the callbacks it fires. -/
def tickMemory (config : RunConfig F M) (state : RunState F M) :
    RunState F M :=
  let (memory, fired) :=
    config.admission.ramulator.tick state.driver.memory
  fired.foldl completeSlot
    { state with driver := { state.driver with memory := memory } }

end Memory

/-- Inputs of the reduction tree collected so far. -/
structure TreeInputs (F : Type) where
  vectors : Fin 16 → Vec16 F
  valid : Bool

/-- The attached accumulation unit's tick. -/
def tickPsau
    [Add F]
    (config : RunConfig F M)
    (state : RunState F M)
    (inputs : TreeInputs F) : RunState F M :=
  match config.attached.psau with
  | none => state
  | some ref =>
      let (valid, _, unit) :=
        (state.store.psaus ref).tick inputs.vectors inputs.valid
      let state := { state with store := state.store.setPsau ref unit }
      match valid, config.attached.router, config.attached.vertexProgram with
      | true, some router, none =>
          state.route router .psauWriteback [psauWriteback]
      | _, _, _ => state

section Cycle

variable [Zero F] [One F] [Add F] [Sub F] [Mul F] [Div F] [NatCast F]

/-- One tick of a core, together with what it changes outside itself. -/
def tickCore
    (config : RunConfig F M)
    (state : RunState F M)
    (ref : Nat) : RunState F M :=
  let core := state.store.cores ref
  let result := core.tick config.ops ref
    (state.store.piccolos core.piccolo) (core.lentHardware state.store)
  ({ state with
      store := core.installTick ref state.store result } : RunState F M).route
    core.router (.vpu ref) result.request.toList

/-- One vault's turn: its core, then its feeder and array. -/
def tickVault
    (config : RunConfig F M)
    (progress : RunState F M × TreeInputs F)
    (vault : Fin 16) : RunState F M × TreeInputs F :=
  match config.attached.vpus vault with
  | none => progress
  | some coreRef =>
      let state := progress.1.tickCore config coreRef
      match config.attached.feeders vault,
          config.attached.systolicArrays vault with
      | some feederRef, some arrayRef =>
          let (acts, feeder) :=
            (state.store.feeders feederRef).getNextActivations
          let store := state.store.setFeeder feederRef feeder
          let (outputs, array) := (store.arrays arrayRef).tick acts 0
          ({ state with store := store.setArray arrayRef array },
            { vectors := Function.update progress.2.vectors vault outputs
              valid := progress.2.valid ||
                (List.finRange 16).any fun lane =>
                  config.ops.isSignificant (outputs lane) })
      | _, _ => (state, progress.2)

/-- All vaults' turns. -/
def tickVaults (config : RunConfig F M) (state : RunState F M) :
    RunState F M × TreeInputs F :=
  (List.finRange 16).foldl (tickVault config)
    (state, { vectors := 0, valid := false })

/-- The program's own tick; the hidden-state reads of the gather phase go
straight to the ports. -/
def advanceProgram
    (config : RunConfig F M)
    (state : RunState F M)
    (ref : Nat)
    (inputs : TreeInputs F) : RunState F M :=
  let (program, store, reads) :=
    (state.store.programs ref).tick config.ops state.store inputs.vectors
  { state with
    store := store.setProgram ref program
    driver := state.driver.enqueueAll none reads }

/-- The attached vertex program's tick and the bursts issued for it. -/
def tickVertexProgram
    (config : RunConfig F M)
    (state : RunState F M)
    (inputs : TreeInputs F) : RunState F M :=
  match config.attached.vertexProgram with
  | none => state
  | some ref =>
      let state := state.advanceProgram config ref inputs
      let state := state.requestHidden config ref
      let state := state.writebackVertex config ref
      state.recordStats ref

/-- The part of a cycle before the vertex program, with what the arrays have
put out. -/
def tickDatapath (config : RunConfig F M) (state : RunState F M) :
    RunState F M × TreeInputs F :=
  let (state, inputs) :=
    ((state.issuePiccolo config).tickRouter config).tickVaults config
  (state.tickPsau config inputs, inputs)

/-- The part of a cycle before admission. -/
def tickComponents (config : RunConfig F M) (state : RunState F M) :
    RunState F M :=
  let (state, inputs) := state.tickDatapath config
  state.tickVertexProgram config inputs

/-- One iteration of the main loop. -/
def cycle (config : RunConfig F M) (state : RunState F M) : RunState F M :=
  { ((state.tickComponents config).runAdmission config).tickMemory config with
    cycles := state.cycles + 1 }

/-- The main loop, for a given number of remaining cycles. -/
def loop (config : RunConfig F M) : Nat → RunState F M → RunState F M
  | 0, state => state
  | remaining + 1, state =>
      if state.hasWork config then
        loop config remaining (state.cycle config)
      else state

end Cycle

end RunState

namespace RamulatorHbmSimulator

variable {F M : Type}

/-- A newly built simulator, with nothing attached. -/
def initial [Zero F] [One F]
    (ops : FloatOps F)
    (admission : AdmissionConfig M)
    (memory : M) : RamulatorHbmSimulator F M where
  attached := {}
  ops := ops
  admission := admission
  store := .initial
  mux := {}
  memory := memory
  inflight := []
  nextSlot := 0

/-- The constant part of a call of `run`. -/
def runConfig (simulator : RamulatorHbmSimulator F M) : RunConfig F M where
  attached := simulator.attached
  ops := simulator.ops
  admission := simulator.admission

/-- The state a call of `run` starts from. -/
def enter (simulator : RamulatorHbmSimulator F M) : RunState F M where
  store := simulator.store
  driver :=
    { mux := simulator.mux
      memory := simulator.memory
      inflight := simulator.inflight
      nextSlot := simulator.nextSlot }

/-- The simulator a call of `run` leaves behind: the counters captured by the
callbacks still in flight are gone. -/
def leave
    (simulator : RamulatorHbmSimulator F M)
    (state : RunState F M) : RamulatorHbmSimulator F M :=
  { simulator with
    store := state.store
    mux := state.driver.mux
    memory := state.driver.memory
    inflight := state.driver.inflight.map fun entry =>
      (entry.1, { entry.2 with live := false })
    nextSlot := state.driver.nextSlot }

/-- The result a call of `run` returns. -/
def result (state : RunState F M) : SimulationResult where
  memoryCycles := state.cycles
  bytesMoved := state.driver.bytesDone
  burstsCompleted := state.driver.completed
  tsvBytesAdmitted := state.driver.tsvBytesAdmitted
  verticesProcessed := state.verticesProcessed
  vertexProgramStats := state.vertexProgramStats

variable [Zero F] [One F] [Add F] [Sub F] [Mul F] [Div F] [NatCast F]

/-- The state in which a call of `run` leaves its loop. -/
def runState
    (simulator : RamulatorHbmSimulator F M)
    (maxMemoryCycles : Nat) : RunState F M :=
  simulator.enter.loop simulator.runConfig maxMemoryCycles

/-- Run until all bursts are completed or the cycle budget is spent. -/
def run
    (simulator : RamulatorHbmSimulator F M)
    (maxMemoryCycles : Nat) :
    RamulatorHbmSimulator F M × SimulationResult :=
  let state := simulator.runState maxMemoryCycles
  (simulator.leave state, result state)

end RamulatorHbmSimulator

end PimGraphs
