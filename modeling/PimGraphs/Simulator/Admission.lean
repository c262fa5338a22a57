import Mathlib.Data.Multiset.AddSub
import Mathlib.Data.Rat.Defs
import Mathlib.Algebra.Order.Ring.Unbundled.Rat
import PimGraphs.Memory.PseudoChannel

/-!
# Admission of bursts into the memory

The memory is any machine with the interface below.  It knows a read by its
address and by a slot, the number of reads accepted before it; the callback
of an accepted read waits in a table under that slot until the memory fires
it.  Admission runs in waves: every wave sweeps the sixteen ports once, from
the cursor at its start, and a cycle ends with the first wave that admits
nothing or after 256 waves.

The counters of the source are 64-bit.  `completed`, `bytesDone` and
`tsvBytesAdmitted` are only ever added to, and the other two count requests
held in memory, so natural numbers stand for all of them; the byte budget of
a cycle adds at most 4096 sizes below 2^32, which a double represents exactly.
-/

namespace PimGraphs

/-- A memory system: a rejected `send` leaves its state as it is, and every
accepted read fires exactly once, inside `tick`, in any order and after any
delay. -/
structure Ramulator (M : Type) where
  /-- Clock period in nanoseconds. -/
  tCK : ℚ
  /-- The state after accepting a read, or nothing when it is rejected. -/
  send : M → UInt64 → Nat → Option M
  /-- The next state and the slots whose callbacks fire, in order. -/
  tick : M → M × List Nat
  /-- Slots accepted and not yet fired. -/
  held : M → Multiset Nat
  held_send : ∀ {state next : M} {addr : UInt64} {slot : Nat},
    send state addr slot = some next → held next = slot ::ₘ held state
  held_tick : ∀ state : M,
    held state = held (tick state).1 + ((tick state).2 : Multiset Nat)

namespace Ramulator

variable {M : Type} (ramulator : Ramulator M)

/-- States reached by accepted reads alone. -/
inductive Accepts (first : M) : M → Prop
  | refl : Accepts first first
  | send {state next : M} {addr : UInt64} {slot : Nat} :
      Accepts first state → ramulator.send state addr slot = some next →
        Accepts first next

/-- Every accepted read fires after finitely many ticks, whatever else is
accepted in between. -/
def Live : Prop :=
  ∀ states loaded : Nat → M,
    (∀ time, ramulator.Accepts (states time) (loaded time) ∧
      states (time + 1) = (ramulator.tick (loaded time)).1) →
    ∀ slot ∈ ramulator.held (states 0),
      ∃ time, slot ∈ (ramulator.tick (loaded time)).2

end Ramulator

/-- The callback `run` registers with a read.  It captures the counters of the
call that admitted the read, which exist while that call is `live`. -/
structure Request where
  burst : MemoryBurst
  trackAsStandardSparse : Bool
  live : Bool
  deriving DecidableEq, Repr

namespace Request

/-- Bytes the request moves. -/
def bytes (request : Request) : Nat := request.burst.bytes

end Request

/-- Where a burst handed to a router comes from. -/
inductive Producer
  | vpu (core : Nat)
  | psauWriteback
  | hiddenLoad
  | vertexWriteback
  deriving DecidableEq, Repr

/-- What happens to bursts during a call.  The list of events is kept for
stating properties; no step reads it. -/
inductive Event
  /-- A burst is handed to a router. -/
  | routed (router : Nat) (producer : Producer) (burst : MemoryBurst)
  /-- A burst is queued on a port, by a router or directly. -/
  | enqueued (via : Option Nat) (pcId : PcId) (burst : MemoryBurst)
  /-- The memory accepts the front burst of a port. -/
  | admitted (pcId : PcId) (slot : Nat) (burst : MemoryBurst)
  /-- A read completes. -/
  | completed (slot : Nat) (burst : MemoryBurst)
  /-- The burst's own callback runs. -/
  | ran (slot : Nat) (callback : Callback)
  deriving DecidableEq, Repr

/-- The ports, the memory and the counters of one call of `run`. -/
@[ext] structure Driver (M : Type) where
  mux : PseudoChannelMultiplexer
  memory : M
  /-- Callbacks of the reads in flight, by slot. -/
  inflight : List (Nat × Request)
  nextSlot : Nat
  completed : Nat := 0
  bytesDone : Nat := 0
  outstandingRequests : Nat := 0
  standardSparseInflight : Nat := 0
  tsvBytesAdmitted : Nat := 0
  history : List Event := []

/-- What admission depends on and never changes. -/
structure AdmissionConfig (M : Type) where
  ramulator : Ramulator M
  tsvPeakGbps : ℚ := 512
  serializeStandardSparseReads : Bool := false

namespace AdmissionConfig

variable {M : Type}

/-- Bytes per memory cycle under a positive cap. -/
def tsvLimitPerTick (config : AdmissionConfig M) : ℚ :=
  config.tsvPeakGbps * 1000000000 * (config.ramulator.tCK / 1000000000)

/-- Whether a burst would exceed what is left of the cycle's budget. -/
def overBudget (config : AdmissionConfig M) (used size : Nat) : Bool :=
  decide (0 < config.tsvPeakGbps) &&
    decide (config.tsvLimitPerTick + 1 / 1000000 < (used : ℚ) + size)

end AdmissionConfig

namespace Driver

variable {M : Type}

/-- Queue a burst on the port it names. -/
def enqueue (driver : Driver M) (via : Option Nat) (burst : MemoryBurst) :
    Driver M :=
  { driver with
    mux := driver.mux.enqueue burst.pcId burst
    history := driver.history ++ [.enqueued via burst.pcId burst] }

/-- Queue bursts on the ports they name, in order. -/
def enqueueAll
    (driver : Driver M)
    (via : Option Nat)
    (bursts : List MemoryBurst) : Driver M :=
  bursts.foldl (fun driver burst => driver.enqueue via burst) driver

/-- Record bursts handed to a router. -/
def recordRouted
    (driver : Driver M)
    (router : Nat)
    (producer : Producer)
    (bursts : List MemoryBurst) : Driver M :=
  { driver with
    history := driver.history ++ bursts.map (.routed router producer) }

/-- Whether the serialization knob holds a burst back. -/
def serialized
    (config : AdmissionConfig M)
    (driver : Driver M)
    (burst : MemoryBurst) : Bool :=
  config.serializeStandardSparseReads && burst.isStandardSparseRead &&
    decide (0 < driver.standardSparseInflight)

/-- The bookkeeping of an accepted read. -/
def acceptRead
    (driver : Driver M)
    (pcId : PcId)
    (burst : MemoryBurst)
    (memory : M) : Driver M :=
  let track := burst.isStandardSparseRead
  { driver with
    mux := (driver.mux.setPort pcId (driver.mux.port pcId).pop).advanceAfterIssue
      pcId
    memory := memory
    inflight := driver.inflight ++
      [(driver.nextSlot, ⟨burst, track, true⟩)]
    nextSlot := driver.nextSlot + 1
    tsvBytesAdmitted := driver.tsvBytesAdmitted + burst.bytes
    outstandingRequests := driver.outstandingRequests + 1
    standardSparseInflight :=
      if track then driver.standardSparseInflight + 1
      else driver.standardSparseInflight
    history := driver.history ++ [.admitted pcId driver.nextSlot burst] }

/-- The callback of one slot: the counters of a live call, then the burst's
own callback, which the caller has to run. -/
def finish (driver : Driver M) (slot : Nat) :
    Driver M × Option Callback :=
  match driver.inflight.lookup slot with
  | none => (driver, none)
  | some request =>
      let callback := request.burst.onComplete
      let driver :=
        { driver with
          inflight := driver.inflight.eraseP fun entry => entry.1 == slot
          history := driver.history ++ [.completed slot request.burst] }
      if request.live then
        ({ driver with
            completed := driver.completed + 1
            bytesDone := driver.bytesDone + request.bytes
            outstandingRequests := driver.outstandingRequests - 1
            standardSparseInflight :=
              if request.trackAsStandardSparse then
                driver.standardSparseInflight - 1
              else driver.standardSparseInflight },
          callback)
      else (driver, callback)

/-- Record that the callback of a burst has run. -/
def recordRun
    (driver : Driver M)
    (slot : Nat)
    (callback : Callback) : Driver M :=
  { driver with history := driver.history ++ [.ran slot callback] }

end Driver

/-- The state of one cycle's wave loop. -/
structure WaveLoop (M : Type) where
  driver : Driver M
  tsvUsedThisTick : Nat := 0
  waveCount : Nat := 0
  waveProgress : Bool := true

namespace WaveLoop

variable {M : Type}

/-- Largest number of sweeps in one memory cycle. -/
def kMaxWavesPerTick : Nat := 256

/-- One port's turn in a sweep. -/
def visitPort
    (config : AdmissionConfig M)
    (loop : WaveLoop M)
    (pcId : PcId) : WaveLoop M :=
  match (loop.driver.mux.port pcId).front with
  | none => loop
  | some burst =>
      if loop.driver.serialized config burst then loop
      else if config.overBudget loop.tsvUsedThisTick burst.bytes then loop
      else
        match config.ramulator.send loop.driver.memory burst.addr
            loop.driver.nextSlot with
        | none => loop
        | some memory =>
            { loop with
              driver := loop.driver.acceptRead pcId burst memory
              tsvUsedThisTick := loop.tsvUsedThisTick + burst.bytes
              waveProgress := true }

/-- One full round-robin sweep, from the cursor at its start. -/
def sweep (config : AdmissionConfig M) (loop : WaveLoop M) : WaveLoop M :=
  (RoundRobin.order loop.driver.mux.roundRobinCursor).foldl
    (visitPort config)
    { loop with
      waveCount := loop.waveCount + 1
      waveProgress := false }

/-- Sweep while there was progress and waves are left. -/
def runWaves (config : AdmissionConfig M) : Nat → WaveLoop M → WaveLoop M
  | 0, loop => loop
  | fuel + 1, loop =>
      if loop.waveProgress && decide (loop.waveCount < kMaxWavesPerTick) then
        runWaves config fuel (loop.sweep config)
      else loop

end WaveLoop

namespace Driver

variable {M : Type}

/-- The wave loop of one memory cycle. -/
def admissionLoop (config : AdmissionConfig M) (driver : Driver M) :
    WaveLoop M :=
  WaveLoop.runWaves config WaveLoop.kMaxWavesPerTick { driver := driver }

end Driver

end PimGraphs
