import Mathlib.Logic.Relation
import PimGraphs.Library.Sweep
import PimGraphs.Memory.Piccolo

/-!
# Gather batches under interleaving

Issue ticks, completed reads and pops of the data buffer interleave in any
order.  The controller looks at the data buffer when it issues a read and not
when the read completes, yet no value is lost: the offset buffer and the data
buffer have the same capacity, so a batch never has more reads in flight and
values waiting than the data buffer holds.
-/

namespace PimGraphs

namespace PiccoloGatherController

/-- Start a batch with preloaded offsets. -/
def startBatch
    (controller : PiccoloGatherController)
    (numElems : Nat)
    (offsets : List UInt32) : PiccoloGatherController :=
  (controller.resetForNewBatch numElems).pushOffsets offsets

/-- What a controller never changes. -/
structure SameDevice (one other : PiccoloGatherController) : Prop where
  pcId : one.pcId = other.pcId
  elemBytes : one.elemBytes = other.elemBytes
  obCap : one.ob.cap = other.ob.cap
  dbCap : one.db.cap = other.db.cap

theorem SameDevice.refl (controller : PiccoloGatherController) :
    controller.SameDevice controller :=
  ⟨rfl, rfl, rfl, rfl⟩

theorem SameDevice.trans
    {first second third : PiccoloGatherController}
    (earlier : first.SameDevice second)
    (later : second.SameDevice third) :
    first.SameDevice third :=
  ⟨earlier.pcId.trans later.pcId, earlier.elemBytes.trans later.elemBytes,
    earlier.obCap.trans later.obCap, earlier.dbCap.trans later.dbCap⟩

theorem cap_ob_startBatch
    (controller : PiccoloGatherController)
    (numElems : Nat)
    (offsets : List UInt32) :
    (controller.startBatch numElems offsets).ob.cap = controller.ob.cap := by
  have pushed : (controller.startBatch numElems offsets).ob.cap =
      controller.ob.clear.cap :=
    Sweep.observe_foldl (fun ob : OffsetBuffer => ob.cap)
      (fun ob offset => RingBuffer.cap_push ob offset) _ _
  rw [pushed, RingBuffer.cap_clear]

theorem sameDevice_startBatch
    (controller : PiccoloGatherController)
    (numElems : Nat)
    (offsets : List UInt32) :
    SameDevice (controller.startBatch numElems offsets) controller :=
  ⟨rfl, rfl, controller.cap_ob_startBatch numElems offsets, rfl⟩

/-- What stays the same while a batch is gathered. -/
structure SameBatch (one other : PiccoloGatherController) : Prop
    extends SameDevice one other where
  baseAddr : one.baseAddr = other.baseAddr
  numElems : one.numElems = other.numElems
  maxOutstanding : one.maxOutstanding = other.maxOutstanding

theorem SameBatch.elementRead
    {one other : PiccoloGatherController}
    (same : SameBatch one other)
    (this : Nat) :
    one.elementRead this = other.elementRead this := by
  funext offset
  simp only [PiccoloGatherController.elementRead, same.pcId, same.baseAddr,
    same.elemBytes]

theorem sameBatch_tickIssue
    (controller : PiccoloGatherController)
    (this : Nat) :
    SameBatch (controller.tickIssue this).1 controller := by
  unfold tickIssue
  split
  · exact ⟨⟨rfl, rfl, RingBuffer.cap_pop _, rfl⟩, rfl, rfl, rfl⟩
  · exact ⟨⟨rfl, rfl, rfl, rfl⟩, rfl, rfl, rfl⟩

theorem sameBatch_onReadComplete
    (controller : PiccoloGatherController)
    (value : UInt32) :
    SameBatch (controller.onReadComplete value) controller := by
  unfold onReadComplete
  split
  · exact ⟨⟨rfl, rfl, rfl, rfl⟩, rfl, rfl, rfl⟩
  · exact ⟨⟨rfl, rfl, rfl, RingBuffer.cap_push _ _⟩, rfl, rfl, rfl⟩

theorem sameBatch_popDb (controller : PiccoloGatherController) :
    SameBatch controller.popDb controller :=
  ⟨⟨rfl, rfl, rfl, RingBuffer.cap_pop _⟩, rfl, rfl, rfl⟩

theorem SameBatch.trans
    {first second third : PiccoloGatherController}
    (earlier : SameBatch first second)
    (later : SameBatch second third) :
    SameBatch first third :=
  { pcId := earlier.pcId.trans later.pcId
    elemBytes := earlier.elemBytes.trans later.elemBytes
    obCap := earlier.obCap.trans later.obCap
    dbCap := earlier.dbCap.trans later.dbCap
    baseAddr := earlier.baseAddr.trans later.baseAddr
    numElems := earlier.numElems.trans later.numElems
    maxOutstanding := earlier.maxOutstanding.trans later.maxOutstanding }

end PiccoloGatherController

open PiccoloGatherController

/-- A controller gathering a batch, with what has happened since its start. -/
structure GatherBatch where
  controller : PiccoloGatherController
  /-- Reads enqueued on the controller's port, in order. -/
  reads : List MemoryBurst := []
  /-- Values of the completed reads, in completion order. -/
  values : List UInt32 := []
  /-- Values popped from the data buffer, in order. -/
  popped : List UInt32 := []

namespace GatherBatch

/-- An issue tick. -/
def issue (batch : GatherBatch) (this : Nat) : GatherBatch :=
  { batch with
    controller := (batch.controller.tickIssue this).1
    reads := batch.reads ++ (batch.controller.tickIssue this).2.toList }

/-- A read completes with a value. -/
def complete (batch : GatherBatch) (value : UInt32) : GatherBatch :=
  { batch with
    controller := batch.controller.onReadComplete value
    values := batch.values ++ [value] }

/-- The caller pops the data buffer. -/
def pop (batch : GatherBatch) : GatherBatch :=
  { batch with
    controller := batch.controller.popDb
    popped := batch.popped ++
      if batch.controller.db.size = 0 then []
      else [batch.controller.db.front] }

/-- What can happen next; every read completes at most once. -/
inductive Step (this : Nat) : GatherBatch → GatherBatch → Prop
  | issue (batch : GatherBatch) : Step this batch (batch.issue this)
  | complete (batch : GatherBatch) (value : UInt32) :
      batch.values.length < batch.reads.length →
        Step this batch (batch.complete value)
  | pop (batch : GatherBatch) : Step this batch batch.pop

/-- The state of a batch: the offsets `kept` by the offset buffer are read in
order, and the completed values pass through the data buffer. -/
structure Sound
    (this : Nat)
    (initial : PiccoloGatherController)
    (kept : List UInt32)
    (batch : GatherBatch) : Prop where
  same : SameBatch batch.controller initial
  waiting : batch.controller.ob.contents =
    kept.drop batch.controller.issued
  issued_le_kept : batch.controller.issued ≤ kept.length
  issued_le : batch.controller.issued ≤ initial.numElems
  outstanding_le : batch.controller.outstanding ≤ initial.maxOutstanding
  balance : batch.controller.issued =
    batch.controller.completed + batch.controller.outstanding
  reads : batch.reads =
    (kept.take batch.controller.issued).map (initial.elementRead this)
  completed : batch.values.length = batch.controller.completed
  values : batch.popped ++ batch.controller.db.contents = batch.values
  room : kept.length ≤ initial.db.cap

namespace Sound

variable {this : Nat} {initial : PiccoloGatherController}
variable {kept : List UInt32} {batch : GatherBatch}

theorem length_reads (sound : Sound this initial kept batch) :
    batch.reads.length = batch.controller.issued := by
  rw [sound.reads, List.length_map, List.length_take,
    Nat.min_eq_left sound.issued_le_kept]

theorem issue (sound : Sound this initial kept batch) :
    Sound this initial kept (batch.issue this) := by
  have same := (sameBatch_tickIssue batch.controller this).trans sound.same
  unfold GatherBatch.issue
  unfold tickIssue at same ⊢
  split
  case isFalse _ =>
    simp only [Option.toList_none, List.append_nil]
    exact sound
  case isTrue canIssue =>
    simp only [canIssue, if_true] at same
    simp only [PiccoloGatherController.canIssue, Bool.and_eq_true,
      decide_eq_true_eq] at canIssue
    obtain ⟨⟨⟨moreElems, moreOutstanding⟩, held⟩, -⟩ := canIssue
    have remaining := sound.waiting.symm.trans
      (batch.controller.ob.contents_eq_front_cons held)
    have inside : batch.controller.issued < kept.length := by
      by_contra outside
      rw [List.drop_of_length_le (Nat.le_of_not_lt outside)] at remaining
      exact List.cons_ne_nil _ _ remaining.symm
    have sameElems := sound.same.numElems
    have sameLimit := sound.same.maxOutstanding
    exact
      { same := same
        waiting := by
          rw [RingBuffer.contents_pop, sound.waiting, List.tail_drop]
        issued_le_kept := inside
        issued_le := by
          rw [← sameElems]
          exact moreElems
        outstanding_le := by
          rw [← sameLimit]
          exact moreOutstanding
        balance := congrArg (· + 1) sound.balance
        reads := by
          rw [List.take_add, remaining, List.map_append, ← sound.reads,
            sound.same.elementRead]
          rfl
        completed := sound.completed
        values := sound.values
        room := sound.room }

theorem complete
    (sound : Sound this initial kept batch)
    (value : UInt32)
    (inFlight : batch.values.length < batch.reads.length) :
    Sound this initial kept (batch.complete value) := by
  have same := (sameBatch_onReadComplete batch.controller value).trans
    sound.same
  have balance := sound.balance
  have completed := sound.completed
  have kept_ge := sound.issued_le_kept
  rw [sound.length_reads] at inFlight
  have someOutstanding : batch.controller.outstanding ≠ 0 := by omega
  -- every value that waits belongs to a read already completed
  have waits : batch.controller.db.size ≤ batch.values.length := by
    rw [← RingBuffer.length_contents, ← sound.values, List.length_append]
    exact Nat.le_add_left _ _
  have room : batch.controller.db.size < batch.controller.db.cap := by
    have fits := sound.room
    rw [sound.same.dbCap]
    omega
  have limit := sound.outstanding_le
  unfold GatherBatch.complete
  unfold onReadComplete at same ⊢
  rw [if_neg someOutstanding] at same ⊢
  exact
    { same := same
      waiting := sound.waiting
      issued_le_kept := sound.issued_le_kept
      issued_le := sound.issued_le
      outstanding_le := (Nat.sub_le _ 1).trans limit
      balance := by
        simp only
        omega
      reads := sound.reads
      completed := by
        rw [List.length_append, completed]
        rfl
      values := by
        rw [RingBuffer.contents_push_of_room _ _ room, ← List.append_assoc,
          sound.values]
      room := sound.room }

theorem pop (sound : Sound this initial kept batch) :
    Sound this initial kept batch.pop := by
  have drained : batch.pop.popped ++ batch.pop.controller.db.contents =
      batch.values := by
    rw [← sound.values]
    simp only [GatherBatch.pop, popDb]
    split
    case isTrue empty =>
      rw [List.append_nil, RingBuffer.pop, dif_pos empty]
    case isFalse held =>
      rw [batch.controller.db.contents_eq_front_cons held, List.append_assoc,
        List.singleton_append]
  exact
    { same := (sameBatch_popDb batch.controller).trans sound.same
      waiting := sound.waiting
      issued_le_kept := sound.issued_le_kept
      issued_le := sound.issued_le
      outstanding_le := sound.outstanding_le
      balance := sound.balance
      reads := sound.reads
      completed := sound.completed
      values := drained
      room := sound.room }

theorem step
    {next : GatherBatch}
    (sound : Sound this initial kept batch)
    (step : Step this batch next) :
    Sound this initial kept next := by
  cases step with
  | issue => exact sound.issue
  | complete value inFlight => exact sound.complete value inFlight
  | pop => exact sound.pop

/-- Every interleaving keeps a batch sound. -/
theorem steps
    {last : GatherBatch}
    (sound : Sound this initial kept batch)
    (steps : Relation.ReflTransGen (Step this) batch last) :
    Sound this initial kept last := by
  induction steps with
  | refl => exact sound
  | tail _ step inductionHypothesis => exact inductionHypothesis.step step

/-- A batch whose offsets fit the data buffer starts soundly. -/
theorem start
    (this : Nat)
    (controller : PiccoloGatherController)
    (numElems : Nat)
    (offsets : List UInt32)
    (room : controller.ob.cap ≤ controller.db.cap) :
    Sound this (controller.startBatch numElems offsets)
      (offsets.take controller.ob.cap)
      { controller := controller.startBatch numElems offsets } where
  same := ⟨⟨rfl, rfl, rfl, rfl⟩, rfl, rfl, rfl⟩
  waiting := by
    have pushed := RingBuffer.contents_foldl_push controller.ob.clear offsets
    rw [RingBuffer.contents_clear, List.nil_append, RingBuffer.cap_clear]
      at pushed
    exact pushed
  issued_le_kept := Nat.zero_le _
  issued_le := Nat.zero_le _
  outstanding_le := Nat.zero_le _
  balance := rfl
  reads := rfl
  completed := rfl
  values := controller.db.contents_clear
  room := by
    rw [List.length_take]
    exact (Nat.min_le_left _ _).trans room

/-- A batch is done when all its reads have completed. -/
theorem done_iff (sound : Sound this initial kept batch) :
    batch.controller.done = true ↔
      batch.values.length = initial.numElems := by
  have balance := sound.balance
  have limit := sound.issued_le
  rw [done, decide_eq_true_eq, sound.same.numElems, sound.completed]
  omega

end Sound

/-! ## What holds of every batch -/

/-- The read of one offset, by its mathematical address modulo 2^64. -/
def gatherRead
    (this : Nat)
    (pcId : PcId)
    (baseAddr : UInt64)
    (elemBytes offset : UInt32) : MemoryBurst where
  addr := UInt64.ofNat (baseAddr.toNat + offset.toNat * elemBytes.toNat)
  sizeBytes := elemBytes
  pcId := pcId
  onComplete := some (.readComplete this)

theorem elementRead_eq_gatherRead
    (controller : PiccoloGatherController)
    (this : Nat) :
    controller.elementRead this =
      gatherRead this controller.pcId controller.baseAddr
        controller.elemBytes := by
  funext offset
  have sameAddr : controller.baseAddr +
      offset.toUInt64 * controller.elemBytes.toUInt64 =
        UInt64.ofNat (controller.baseAddr.toNat +
          offset.toNat * controller.elemBytes.toNat) := by
    apply UInt64.toNat_inj.mp
    simp only [UInt64.toNat_add, UInt64.toNat_mul, UInt32.toNat_toUInt64,
      UInt64.toNat_ofNat', Nat.add_mod_mod]
  rw [PiccoloGatherController.elementRead, gatherRead, sameAddr]

/-- The counters, the reads, the values and the end of a batch of `numElems`
elements with the given offsets. -/
structure Accounted
    (this : Nat)
    (controller : PiccoloGatherController)
    (numElems : Nat)
    (offsets : List UInt32)
    (batch : GatherBatch) : Prop where
  balance : batch.controller.issued =
    batch.controller.completed + batch.controller.outstanding
  outstanding_le : batch.controller.outstanding ≤ controller.maxOutstanding
  issued_le : batch.controller.issued ≤ numElems
  reads : batch.reads =
    ((offsets.take 256).take batch.controller.issued).map
      (gatherRead this controller.pcId controller.baseAddr
        controller.elemBytes)
  length_reads : batch.reads.length = batch.controller.issued
  length_values : batch.values.length = batch.controller.completed
  values : batch.popped ++ batch.controller.db.contents = batch.values
  done_iff : batch.controller.done = true ↔ batch.values.length = numElems

/-- Every interleaving of a batch on buffers of the default capacity issues
its offsets in order, loses no value and is done with its last read. -/
theorem accounted_of_steps
    {this : Nat}
    (controller : PiccoloGatherController)
    (obCap : controller.ob.cap = 256)
    (dbCap : controller.db.cap = 256)
    (numElems : Nat)
    (offsets : List UInt32)
    {batch : GatherBatch}
    (steps : Relation.ReflTransGen (Step this)
      { controller := controller.startBatch numElems offsets } batch) :
    Accounted this controller numElems offsets batch := by
  have started := Sound.start this controller numElems offsets
    (obCap.trans dbCap.symm).le
  have sound := started.steps steps
  exact
    { balance := sound.balance
      outstanding_le := sound.outstanding_le
      issued_le := sound.issued_le
      reads := by
        rw [sound.reads, elementRead_eq_gatherRead, obCap]
        rfl
      length_reads := sound.length_reads
      length_values := sound.completed
      values := sound.values
      done_iff := sound.done_iff }

/-- A controller on port 3 with four-byte elements. -/
def fourByteElements : PiccoloGatherController :=
  { pcId := 3, baseAddr := 4096, elemBytes := 4, numElems := 0 }

/-- A batch with offsets 5 and 9 whose reads have been issued. -/
def twoIssued : GatherBatch :=
  let start : GatherBatch :=
    { controller := fourByteElements.startBatch 2 [5, 9] }
  (start.issue 0).issue 0

theorem twoElements_accounted :
    Accounted 0 fourByteElements 2 [5, 9]
      (((twoIssued.complete 7).pop).complete 8) := by
  have issued : Relation.ReflTransGen (Step 0)
      { controller := fourByteElements.startBatch 2 [5, 9] } twoIssued :=
    (Relation.ReflTransGen.single (.issue _)).tail (.issue _)
  have popped := (issued.tail (.complete _ 7 (by decide))).tail (.pop _)
  exact accounted_of_steps fourByteElements rfl rfl 2 [5, 9]
    (popped.tail (.complete _ 8 (by decide)))

end GatherBatch

end PimGraphs
