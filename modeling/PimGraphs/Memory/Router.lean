import Mathlib.Data.Rat.Defs
import Mathlib.Algebra.Order.Ring.Unbundled.Rat
import PimGraphs.Library.TokenBucket
import PimGraphs.Memory.PseudoChannel

/-!
# The hierarchical router

Bursts below the global boundary and bursts at or above it wait in separate
queues, each drained against its own byte credit.  Rates and credits are
rational numbers.
-/

namespace PimGraphs

/-- Bytes per cycle of an interface that sustains a decimal GB/s figure. -/
def bytesPerCycleFromTargetGbps (targetGbps clockHz : ℚ) : ℚ :=
  targetGbps * 1000000000 / clockHz

/-- Two queues of bursts, each with a byte credit and what a tick adds to it. -/
structure HierarchicalRouter where
  localBytesPerTick : ℚ
  globalBytesPerTick : ℚ
  localUsed : ℚ := 0
  globalUsed : ℚ := 0
  localQueue : List MemoryBurst := []
  globalQueue : List MemoryBurst := []

namespace HierarchicalRouter

/-- First address of global memory. -/
def globalAddressBoundary : UInt64 := 0x80000000

/-- A router built for a clock frequency. -/
def initial (clockHz : ℚ) : HierarchicalRouter where
  localBytesPerTick := bytesPerCycleFromTargetGbps 512 clockHz
  globalBytesPerTick := bytesPerCycleFromTargetGbps 64 clockHz

/-- Queue a burst by its address. -/
def enqueueRequest
    (router : HierarchicalRouter)
    (burst : MemoryBurst) : HierarchicalRouter :=
  if globalAddressBoundary ≤ burst.addr then
    { router with globalQueue := router.globalQueue ++ [burst] }
  else
    { router with localQueue := router.localQueue ++ [burst] }

/-- Deliver bursts from the head of a queue while the credit covers them:
the credit left, the bursts delivered and the queue left. -/
def deliver : ℚ → List MemoryBurst → ℚ × List MemoryBurst × List MemoryBurst
  | used, [] => (used, [], [])
  | used, burst :: rest =>
      if (burst.bytes : ℚ) ≤ used then
        let (left, delivered, queue) := deliver (used - burst.bytes) rest
        (left, burst :: delivered, queue)
      else (used, [], burst :: rest)

/-- The router's draining loop is that of a token bucket. -/
theorem deliver_eq_send (used : ℚ) (queue : List MemoryBurst) :
    deliver used queue =
      TokenBucket.send (fun burst => (burst.bytes : ℚ)) used queue := by
  induction queue generalizing used with
  | nil => rfl
  | cons burst rest inductionHypothesis =>
      rw [deliver, TokenBucket.send, inductionHypothesis]

/-- One router cycle; the bursts returned are enqueued on their ports, local
traffic first. -/
def tick (router : HierarchicalRouter) :
    HierarchicalRouter × List MemoryBurst :=
  let (localUsed, localSent, localQueue) :=
    deliver (router.localUsed + router.localBytesPerTick) router.localQueue
  let (globalUsed, globalSent, globalQueue) :=
    deliver (router.globalUsed + router.globalBytesPerTick) router.globalQueue
  ({ router with localUsed, globalUsed, localQueue, globalQueue },
    localSent ++ globalSent)

/-- All bursts waiting in the router. -/
def waiting (router : HierarchicalRouter) : List MemoryBurst :=
  router.localQueue ++ router.globalQueue

end HierarchicalRouter

end PimGraphs
