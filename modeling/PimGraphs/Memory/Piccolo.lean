import PimGraphs.Library.RingBuffer
import PimGraphs.Memory.PseudoChannel

/-!
# The Piccolo gather controller

A gather batch is a number of elements and a list of offsets preloaded into
the offset buffer.  Every issue tick turns at most one offset into an
element-sized read on the controller's port, every completed read pushes its
value into the data buffer, and the caller drains that buffer.

Counters are natural numbers: `issued` never passes `numElems`, which is a
32-bit value, and `completed` and `outstanding` never pass `issued`.
-/

namespace PimGraphs

/-- Offsets still to be read, on storage allocated at construction. -/
abbrev OffsetBuffer := RingBuffer UInt32

/-- Gathered values, on storage allocated by the first push. -/
abbrev DataBuffer := RingBuffer UInt32

namespace OffsetBuffer

/-- An empty offset buffer; its storage exists from the start. -/
def initial (capacityEntries : Nat) : OffsetBuffer :=
  RingBuffer.eager capacityEntries

end OffsetBuffer

namespace DataBuffer

/-- An empty data buffer; its storage grows with the first push. -/
def initial (capacityElems : Nat) : DataBuffer :=
  RingBuffer.lazily capacityElems

end DataBuffer

/-- A gather controller: where its elements lie, its two buffers, and how many
elements of the batch have been issued, are outstanding and have completed. -/
structure PiccoloGatherController where
  pcId : PcId
  baseAddr : UInt64
  elemBytes : UInt32
  numElems : Nat
  maxOutstanding : Nat := 8
  ob : OffsetBuffer := OffsetBuffer.initial 256
  db : DataBuffer := DataBuffer.initial 256
  issued : Nat := 0
  completed : Nat := 0
  outstanding : Nat := 0

namespace PiccoloGatherController

/-- The conditions under which an issue tick enqueues a read. -/
def canIssue (controller : PiccoloGatherController) : Bool :=
  decide (controller.issued < controller.numElems) &&
    decide (controller.outstanding < controller.maxOutstanding) &&
    decide (controller.ob.size ≠ 0) &&
    decide (controller.db.size < controller.db.cap)

/-- The element read of one offset. -/
def elementRead
    (controller : PiccoloGatherController)
    (this : Nat)
    (offset : UInt32) : MemoryBurst where
  addr := controller.baseAddr + offset.toUInt64 * controller.elemBytes.toUInt64
  sizeBytes := controller.elemBytes
  pcId := controller.pcId
  onComplete := some (.readComplete this)

/-- Issue at most one element read; `this` is the reference captured by the
read's callback, and the burst returned is enqueued on port `pcId`. -/
def tickIssue
    (controller : PiccoloGatherController)
    (this : Nat) : PiccoloGatherController × Option MemoryBurst :=
  if controller.canIssue then
    ({ controller with
        ob := controller.ob.pop
        issued := controller.issued + 1
        outstanding := controller.outstanding + 1 },
      some (controller.elementRead this controller.ob.front))
  else (controller, none)

/-- Issuing touches neither the gathered values nor the completion count. -/
theorem db_tickIssue (controller : PiccoloGatherController) (this : Nat) :
    (controller.tickIssue this).1.db = controller.db := by
  unfold tickIssue
  split <;> rfl

/-- Accept one completed element read, if any is outstanding. -/
def onReadComplete
    (controller : PiccoloGatherController)
    (value : UInt32) : PiccoloGatherController :=
  if controller.outstanding = 0 then controller else
    { controller with
      db := controller.db.push value
      outstanding := controller.outstanding - 1
      completed := controller.completed + 1 }

/-- Empty both buffers and start to count a new batch. -/
def resetForNewBatch
    (controller : PiccoloGatherController)
    (newNumElems : Nat) : PiccoloGatherController :=
  { controller with
    ob := controller.ob.clear
    db := controller.db.clear
    numElems := newNumElems
    issued := 0
    completed := 0
    outstanding := 0 }

/-- Set the address the offsets are counted from. -/
def setBaseAddr
    (controller : PiccoloGatherController)
    (newBaseAddr : UInt64) : PiccoloGatherController :=
  { controller with baseAddr := newBaseAddr }

/-- Push a list of offsets into the offset buffer, in order. -/
def pushOffsets
    (controller : PiccoloGatherController)
    (offsets : List UInt32) : PiccoloGatherController :=
  { controller with ob := offsets.foldl RingBuffer.push controller.ob }

/-- Drop the oldest gathered value. -/
def popDb (controller : PiccoloGatherController) : PiccoloGatherController :=
  { controller with db := controller.db.pop }

/-- Every element of the batch has completed. -/
def done (controller : PiccoloGatherController) : Bool :=
  decide (controller.numElems ≤ controller.completed)

theorem done_tickIssue (controller : PiccoloGatherController) (this : Nat) :
    (controller.tickIssue this).1.done = controller.done := by
  unfold tickIssue
  split <;> rfl

end PiccoloGatherController

end PimGraphs
