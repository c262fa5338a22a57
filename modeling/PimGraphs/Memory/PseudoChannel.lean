import Mathlib.Algebra.BigOperators.Fin
import PimGraphs.Library.RoundRobin
import PimGraphs.Sizes

/-!
# Bursts, pseudo-channel ports and their round-robin multiplexer

A burst carries the closure the memory runs when its read completes.  The
closures the simulator builds capture a component by reference, so they are
represented by the kind of closure and the reference it captures.
-/

namespace PimGraphs

/-- Identity of one of the sixteen logical pseudo-channels.  `port` throws
outside this range. -/
abbrev PcId := Fin 16

/-- The closures stored in `on_complete`. -/
inductive Callback
  /-- `on_read_complete(0)` of a gather controller. -/
  | readComplete (piccolo : Nat)
  /-- `on_memory_reply` of a core, with its mock payload. -/
  | loadReply (core : Nat)
  /-- The hidden-state callback of a vertex program, with its mock payload. -/
  | loadHidden (program : Nat)
  /-- A closure of the host program, which touches no simulated component. -/
  | host (tag : Nat)
  deriving DecidableEq, Repr

/-- One memory burst issued on behalf of a logical pseudo-channel. -/
structure MemoryBurst where
  addr : UInt64 := 0
  sizeBytes : UInt32 := 64
  pcId : PcId := 0
  onComplete : Option Callback := none
  deriving DecidableEq, Repr

namespace MemoryBurst

/-- Bytes the burst moves. -/
def bytes (burst : MemoryBurst) : Nat := burst.sizeBytes.toNat

/-- A cache-line sized read that no component waits for. -/
def isStandardSparseRead (burst : MemoryBurst) : Bool :=
  decide (64 ≤ burst.bytes) && burst.onComplete.isNone

end MemoryBurst

/-- Bytes of the address region of one pseudo-channel. -/
def kRegionSize : UInt64 := 1048576

/-- First-in first-out queue of the bursts of one pseudo-channel. -/
structure PseudoChannelPort where
  pending : List MemoryBurst := []
  deriving DecidableEq, Repr

namespace PseudoChannelPort

/-- Queue a burst behind the pending ones. -/
def enqueue (port : PseudoChannelPort) (burst : MemoryBurst) :
    PseudoChannelPort :=
  ⟨port.pending ++ [burst]⟩

/-- No burst is pending. -/
def empty (port : PseudoChannelPort) : Bool := port.pending.isEmpty

/-- The oldest pending burst, if any. -/
def front (port : PseudoChannelPort) : Option MemoryBurst :=
  port.pending.head?

/-- Drop the oldest pending burst. -/
def pop (port : PseudoChannelPort) : PseudoChannelPort :=
  ⟨port.pending.tail⟩

/-- Number of pending bursts. -/
def size (port : PseudoChannelPort) : Nat := port.pending.length

@[simp] theorem pending_enqueue
    (port : PseudoChannelPort)
    (burst : MemoryBurst) :
    (port.enqueue burst).pending = port.pending ++ [burst] := rfl

@[simp] theorem pending_pop (port : PseudoChannelPort) :
    port.pop.pending = port.pending.tail := rfl

@[simp] theorem empty_eq_true_iff (port : PseudoChannelPort) :
    port.empty = true ↔ port.pending = [] := by
  simp [empty]

end PseudoChannelPort

/-- The sixteen ports and the cursor of their round-robin arbiter. -/
structure PseudoChannelMultiplexer where
  ports : PcId → PseudoChannelPort := fun _ => {}
  rrCursor : PcId := 0

namespace PseudoChannelMultiplexer

/-- One port. -/
def port (mux : PseudoChannelMultiplexer) (pcId : PcId) :
    PseudoChannelPort :=
  mux.ports pcId

/-- Replace the contents of one port. -/
def setPort
    (mux : PseudoChannelMultiplexer)
    (pcId : PcId)
    (port : PseudoChannelPort) : PseudoChannelMultiplexer :=
  { mux with ports := Function.update mux.ports pcId port }

/-- Queue a burst on a port. -/
def enqueue
    (mux : PseudoChannelMultiplexer)
    (pcId : PcId)
    (burst : MemoryBurst) : PseudoChannelMultiplexer :=
  mux.setPort pcId ((mux.port pcId).enqueue burst)

/-- Whether a port has a pending burst. -/
def ready (mux : PseudoChannelMultiplexer) (pcId : PcId) : Bool :=
  !(mux.port pcId).empty

/-- The next port with a pending burst, or nothing if all are empty. -/
def pickNextRoundRobin (mux : PseudoChannelMultiplexer) : Option PcId :=
  RoundRobin.pick mux.ready mux.rrCursor

/-- Move the cursor behind a port that has just issued. -/
def advanceAfterIssue
    (mux : PseudoChannelMultiplexer)
    (pcId : PcId) : PseudoChannelMultiplexer :=
  { mux with rrCursor := pcId + 1 }

/-- The port the next sweep starts at. -/
def roundRobinCursor (mux : PseudoChannelMultiplexer) : PcId := mux.rrCursor

/-- Number of bursts pending on all ports. -/
def totalPendingBursts (mux : PseudoChannelMultiplexer) : Nat :=
  ∑ pcId, (mux.port pcId).size

/-- One burst of a pseudo-channel's sequential stream. -/
def sequentialBurst (burstBytes : UInt32) (pcId : PcId) (index : Nat) :
    MemoryBurst where
  addr := UInt64.ofNat pcId.val * kRegionSize +
    UInt64.ofNat index * burstBytes.toUInt64
  sizeBytes := burstBytes
  pcId := pcId

/-- Queue the same number of sequential reads on every port. -/
def loadSequentialWorkload
    (mux : PseudoChannelMultiplexer)
    (burstsPerPc burstBytes : UInt32) : PseudoChannelMultiplexer :=
  (List.finRange 16).foldl
    (fun mux pcId =>
      (List.range burstsPerPc.toNat).foldl
        (fun mux index =>
          mux.enqueue pcId (sequentialBurst burstBytes pcId index))
        mux)
    mux

@[simp] theorem port_setPort
    (mux : PseudoChannelMultiplexer)
    (pcId other : PcId)
    (port : PseudoChannelPort) :
    (mux.setPort pcId port).port other =
      if other = pcId then port else mux.port other := by
  simp [setPort, PseudoChannelMultiplexer.port, Function.update_apply]

@[simp] theorem rrCursor_setPort
    (mux : PseudoChannelMultiplexer)
    (pcId : PcId)
    (port : PseudoChannelPort) :
    (mux.setPort pcId port).rrCursor = mux.rrCursor := rfl

@[simp] theorem port_enqueue
    (mux : PseudoChannelMultiplexer)
    (pcId other : PcId)
    (burst : MemoryBurst) :
    (mux.enqueue pcId burst).port other =
      if other = pcId then (mux.port pcId).enqueue burst
      else mux.port other := by
  simp [enqueue]

@[simp] theorem rrCursor_enqueue
    (mux : PseudoChannelMultiplexer)
    (pcId : PcId)
    (burst : MemoryBurst) :
    (mux.enqueue pcId burst).rrCursor = mux.rrCursor := rfl

@[simp] theorem port_advanceAfterIssue
    (mux : PseudoChannelMultiplexer)
    (pcId other : PcId) :
    (mux.advanceAfterIssue pcId).port other = mux.port other := rfl

@[simp] theorem rrCursor_advanceAfterIssue
    (mux : PseudoChannelMultiplexer)
    (pcId : PcId) :
    (mux.advanceAfterIssue pcId).rrCursor = pcId + 1 := rfl

theorem ready_eq_true_iff (mux : PseudoChannelMultiplexer) (pcId : PcId) :
    mux.ready pcId = true ↔ (mux.port pcId).pending ≠ [] := by
  rw [ready, Bool.not_eq_true', Bool.eq_false_iff, Ne,
    PseudoChannelPort.empty_eq_true_iff]

theorem ready_eq_false_iff (mux : PseudoChannelMultiplexer) (pcId : PcId) :
    mux.ready pcId = false ↔ (mux.port pcId).pending = [] := by
  rw [← Bool.not_eq_true, ready_eq_true_iff, not_not]

/-- Nothing is pending exactly when every port is empty. -/
theorem totalPendingBursts_eq_zero_iff (mux : PseudoChannelMultiplexer) :
    mux.totalPendingBursts = 0 ↔ ∀ pcId, (mux.port pcId).pending = [] := by
  simp [totalPendingBursts, PseudoChannelPort.size]

end PseudoChannelMultiplexer

end PimGraphs
