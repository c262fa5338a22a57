import Mathlib.Data.List.TakeWhile
import PimGraphs.Compute.GatherOrder

/-!
# Asynchronous write-backs

Three things wake a waiting core: a memory reply, a finished gather and a
finished GRU cell.  Each writes lanes of its values to consecutive registers,
counted in another arithmetic: a reply in unsigned 64-bit integers, the other
two in `int`, while the register the write-back starts at is always an `int`.
The lanes stored are given here as a list, so that indices outside the file
are visible.
-/

namespace PimGraphs

namespace Registers

variable {F : Type}

/-- Store lanes of some values, a lane at its distance from the base. -/
def storeLanes
    (registers : Registers F)
    (base : Int)
    (values : List F)
    (lanes : List Nat) : Registers F :=
  lanes.foldl
    (fun registers (lane : Nat) =>
      values[lane]?.elim registers (registers.writeInt (base + lane)))
    registers

@[simp] theorem storeLanes_nil
    (registers : Registers F)
    (base : Int)
    (values : List F) :
    registers.storeLanes base values [] = registers := rfl

theorem storeLanes_map_succ
    (registers : Registers F)
    (base : Int)
    (value : F)
    (rest : List F)
    (lanes : List Nat) :
    registers.storeLanes base (value :: rest) (lanes.map Nat.succ) =
      registers.storeLanes (base + 1) rest lanes := by
  unfold storeLanes
  rw [List.foldl_map]
  congr 1
  funext reached lane
  rw [List.getElem?_cons_succ, Nat.cast_succ, add_assoc, add_comm (1 : Int)]

theorem storeLanes_zero_cons
    (registers : Registers F)
    (base : Int)
    (value : F)
    (rest : List F)
    (lanes : List Nat) :
    registers.storeLanes base (value :: rest) (0 :: lanes.map Nat.succ) =
      (registers.writeInt base value).storeLanes (base + 1) rest lanes := by
  rw [← storeLanes_map_succ]
  unfold storeLanes
  rw [List.foldl_cons, List.getElem?_cons_zero, Option.elim_some,
    Nat.cast_zero, add_zero]

theorem storeLanes_of_values_nil
    (registers : Registers F)
    (base : Int)
    (lanes : List Nat) :
    registers.storeLanes base [] lanes = registers := by
  unfold storeLanes
  induction lanes with
  | nil => rfl
  | cons lane lanes inductionHypothesis =>
      rw [List.foldl_cons, List.getElem?_nil, Option.elim_none,
        inductionHypothesis]

/-- Writing the first of some values stores their lanes. -/
theorem writeLanes_take_eq_storeLanes
    (registers : Registers F)
    (base : Int)
    (values : List F)
    (count : Nat) :
    registers.writeLanes base (values.take count) =
      registers.storeLanes base values (List.range count) := by
  induction values generalizing registers base count with
  | nil =>
      rw [List.take_nil, writeLanes_nil, storeLanes_of_values_nil]
  | cons value rest inductionHypothesis =>
      cases count with
      | zero => rfl
      | succ count =>
          rw [List.take_succ_cons, writeLanes_cons, inductionHypothesis,
            List.range_succ_eq_map, storeLanes_zero_cons]

/-- A stored lane holds its value; the other registers are unchanged. -/
theorem getElem?_storeLanes
    (registers : Registers F)
    (base reg : Nat)
    (values : List F)
    (lanes : List Nat)
    (held : ∀ lane ∈ lanes, lane < values.length) :
    (registers.storeLanes base values lanes)[reg]? =
      if base ≤ reg ∧ reg - base ∈ lanes ∧ reg < registers.length then
        values[reg - base]?
      else registers[reg]? := by
  induction lanes generalizing registers with
  | nil =>
      rw [storeLanes_nil, if_neg fun stored => List.not_mem_nil stored.2.1]
  | cons lane lanes inductionHypothesis =>
      obtain ⟨value, present⟩ : ∃ value, values[lane]? = some value :=
        ⟨_, List.getElem?_eq_getElem (held lane List.mem_cons_self)⟩
      have first : registers.storeLanes base values (lane :: lanes) =
          (registers.writeInt (base + lane : Nat) value).storeLanes base
            values lanes := by
        unfold storeLanes
        rw [List.foldl_cons, present, Option.elim_some, Nat.cast_add]
      rw [first, inductionHypothesis _ fun other member =>
          held other (List.mem_cons_of_mem _ member),
        length_writeInt, getElem?_writeInt]
      simp only [List.mem_cons]
      by_cases here : base + lane = reg ∧ reg < registers.length
      · obtain ⟨rfl, inside⟩ := here
        simp [present, inside]
      · rw [if_neg here]
        refine if_congr ?_ rfl rfl
        constructor
        · rintro ⟨after, member, inside⟩
          exact ⟨after, Or.inr member, inside⟩
        · rintro ⟨after, same | member, inside⟩
          · exact absurd ⟨by omega, inside⟩ here
          · exact ⟨after, member, inside⟩

end Registers

namespace SIMDCore

variable {F : Type}

/-- Lanes stored by a memory reply; `std::copy_n` checks neither range. -/
def replyLanes (core : SIMDCore F) (payload : Nat) : List Nat :=
  if !core.isStalled || core.pendingDestReg == -1 then []
  else List.range (core.replyCount payload).toNat

/-- Lanes stored when the data buffer is drained. -/
def drainLanes
    (core : SIMDCore F)
    (piccolo : PiccoloGatherController) : List Nat :=
  (List.range piccolo.db.size).takeWhile fun lane =>
    decide ((lane : Int) < toInt32 piccolo.numElems ∧
      core.pendingDestReg + lane < toInt32 core.registers.length)

/-- Lanes stored when the GRU cell has finished. -/
def gruLanes (core : SIMDCore F) : List Nat :=
  (List.range 16).takeWhile fun lane =>
    decide (core.pendingDestReg + lane < toInt32 core.registers.length)

/-- A reply changes the register file as far as it finds lanes. -/
theorem registers_onMemoryReply (core : SIMDCore F) (payload : List F) :
    (core.onMemoryReply payload).registers =
      core.registers.storeLanes core.pendingDestReg payload
        (core.replyLanes payload.length) := by
  unfold onMemoryReply replyLanes
  split
  · rfl
  · exact core.registers.writeLanes_take_eq_storeLanes _ _ _

theorem registers_writeBackGru (core : SIMDCore F) (hNew : Vec16 F) :
    core.writeBackGru hNew =
      core.registers.storeLanes core.pendingDestReg (List.ofFn hNew)
        core.gruLanes := by
  unfold writeBackGru gruLanes Registers.storeLanes
  have every : List.range 16 = (List.finRange 16).map Fin.val :=
    List.map_coe_finRange_eq_range.symm
  rw [every, List.takeWhile_map, List.foldl_map]
  simp only [Function.comp_def]
  apply List.foldl_ext
  intro registers lane _
  rw [List.getElem?_ofFn, dif_pos lane.isLt, Option.elim_some]

/-- The drain stores its lanes, counted from the lane it has reached. -/
theorem registers_drainDataBuffer
    (ops : FloatOps F)
    (fuel : Nat)
    (reached : Int)
    (batchSize : Nat)
    (core : SIMDCore F)
    (piccolo : PiccoloGatherController)
    (enough : fuel = piccolo.db.size) :
    (drainDataBuffer ops fuel reached batchSize core piccolo).1.registers =
      core.registers.storeLanes (core.pendingDestReg + reached)
        (piccolo.db.contents.map ops.ofBits)
        ((List.range fuel).takeWhile fun lane =>
          decide (reached + lane < toInt32 batchSize ∧
            core.pendingDestReg + reached + lane <
              toInt32 core.registers.length)) := by
  induction fuel generalizing reached core piccolo with
  | zero => rfl
  | succ fuel inductionHypothesis =>
      have held : piccolo.db.size ≠ 0 := by omega
      rw [drainDataBuffer, List.range_succ_eq_map, List.takeWhile_cons,
        piccolo.db.contents_eq_front_cons held, List.map_cons]
      simp only [Nat.cast_zero, add_zero]
      by_cases more : reached < toInt32 batchSize ∧
          core.pendingDestReg + reached < toInt32 core.registers.length
      · have popped : fuel = piccolo.popDb.db.size := by
          simp only [PiccoloGatherController.popDb, RingBuffer.pop,
            dif_neg held]
          omega
        have next : core.pendingDestReg + (reached + 1) =
            core.pendingDestReg + reached + 1 := (add_assoc _ _ _).symm
        have later : ∀ lane : Nat,
            reached + 1 + (lane : Int) = reached + (lane + 1 : Nat) ∧
              core.pendingDestReg + reached + 1 + (lane : Int) =
                core.pendingDestReg + reached + (lane + 1 : Nat) := by
          intro lane
          omega
        rw [if_pos ⟨held, more⟩, decide_eq_true more, if_pos rfl,
          inductionHypothesis _ _ _ popped, List.takeWhile_map,
          Registers.storeLanes_zero_cons, Registers.length_writeInt]
        simp only [next, later, Function.comp_def, Nat.succ_eq_add_one]
        rfl
      · rw [if_neg fun drains => more drains.2, decide_eq_false more]
        rfl

end SIMDCore

/-- What wakes a waiting core: a reply, or a tick with the controller it refers
to and the array and feeder lent to its cell. -/
inductive WakeUp (F : Type)
  | reply (payload : List F)
  | gathered
      (piccolo : PiccoloGatherController)
      (hardware : Option (SystolicArray F × ArrayFeeder F))
  | updated
      (piccolo : PiccoloGatherController)
      (sa : SystolicArray F)
      (feeder : ArrayFeeder F)

namespace WakeUp

variable {F : Type}

/-- The core waits for this, to write back from a register operand on. -/
def waiting (wake : WakeUp F) (core : SIMDCore F) (destReg : UInt32) :
    SIMDCore F :=
  { core with
    pendingDestReg := toInt32 destReg.toNat
    isStalled := true
    isWaitingForPiccolo := wake matches .gathered _ _
    isWaitingForGru := wake matches .updated _ _ _ }

@[simp] theorem pendingDestReg_waiting
    (wake : WakeUp F)
    (core : SIMDCore F)
    (destReg : UInt32) :
    (wake.waiting core destReg).pendingDestReg = toInt32 destReg.toNat := by
  simp only [waiting]

@[simp] theorem registers_waiting
    (wake : WakeUp F)
    (core : SIMDCore F)
    (destReg : UInt32) :
    (wake.waiting core destReg).registers = core.registers := by
  simp only [waiting]

/-- Lanes the core stores. -/
def lanes (wake : WakeUp F) (core : SIMDCore F) : List Nat :=
  match wake with
  | .reply payload => core.replyLanes payload.length
  | .gathered piccolo _ => core.drainLanes piccolo
  | .updated _ _ _ => core.gruLanes

variable [Zero F] [One F] [Add F] [Sub F] [Mul F] [Div F] [NatCast F]

/-- The cell of a core after a tick with the array and feeder lent to it. -/
def cell
    (ops : FloatOps F)
    (core : SIMDCore F)
    (sa : SystolicArray F)
    (feeder : ArrayFeeder F) : GRUCell F :=
  (GRUCell.tick ops ⟨core.gruCell, sa, feeder⟩).cell

/-- A gather is finished when its batch is, a GRU update when its cell is; the
batch was set by an instruction. -/
def Arrives (ops : FloatOps F) (core : SIMDCore F) : WakeUp F → Prop
  | .reply _ => True
  | .gathered piccolo _ =>
      piccolo.done = true ∧
        ∃ sizeBytes : UInt32, piccolo.numElems = sizeBytes.toNat / 4
  | .updated _ sa feeder => (cell ops core sa feeder).isDone = true

/-- The values that arrive. -/
def values (ops : FloatOps F) (core : SIMDCore F) : WakeUp F → List F
  | .reply payload => payload
  | .gathered piccolo _ => piccolo.db.contents.map ops.ofBits
  | .updated _ sa feeder => List.ofFn (cell ops core sa feeder).hNew

/-- Number of lanes of a write-back: at most sixteen of a reply, and at most
the batch of a gather. -/
def width : WakeUp F → Nat
  | .reply payload => min 16 payload.length
  | .gathered piccolo _ => min piccolo.db.size piccolo.numElems
  | .updated _ _ _ => 16

/-- The core after it was woken. -/
def wakes
    (ops : FloatOps F)
    (this : Nat)
    (core : SIMDCore F) : WakeUp F → SIMDCore F
  | .reply payload => core.onMemoryReply payload
  | .gathered piccolo hardware => (core.tick ops this piccolo hardware).core
  | .updated piccolo sa feeder =>
      (core.tick ops this piccolo (some (sa, feeder))).core

/-- A tick of a core that waits for a gather drains the data buffer. -/
theorem wakes_gathered
    (ops : FloatOps F)
    (this : Nat)
    (core : SIMDCore F)
    (destReg : UInt32)
    (piccolo : PiccoloGatherController)
    (hardware : Option (SystolicArray F × ArrayFeeder F)) :
    (gathered piccolo hardware).wakes ops this
        ((gathered piccolo hardware).waiting core destReg) =
      (((gathered piccolo hardware).waiting core destReg).tickPiccoloWait ops
        piccolo).1 := by
  simp only [wakes, SIMDCore.tick, waiting, Bool.and_self, if_true]

/-- A tick of a core that waits for its GRU cell ticks the cell. -/
theorem wakes_updated
    (ops : FloatOps F)
    (this : Nat)
    (core : SIMDCore F)
    (destReg : UInt32)
    (piccolo : PiccoloGatherController)
    (sa : SystolicArray F)
    (feeder : ArrayFeeder F) :
    (updated piccolo sa feeder).wakes ops this
        ((updated piccolo sa feeder).waiting core destReg) =
      (((updated piccolo sa feeder).waiting core destReg).tickGruWait ops
        (some (sa, feeder))).1 := by
  simp only [wakes, SIMDCore.tick, waiting, Bool.and_self, Bool.and_false,
    Bool.false_eq_true, if_false, if_true]

/-- The conversions a write-back makes keep the values it compares. -/
def Representable (size : Nat) (destReg : UInt32) : WakeUp F → Prop
  | .reply _ => destReg.toNat < 2 ^ 31 ∧ destReg.toNat ≤ size
  | wake =>
      wake.width = 0 ∨ destReg.toNat < 2 ^ 31 ∧ size < 2 ^ 31 ∨
        2 ^ 31 ≤ size ∧ size ≤ destReg.toNat

/-- The lanes a waiting core stores are those whose register exists, each goes
to its register, and none outside the file. -/
structure StoresInside
    (core : SIMDCore F)
    (destReg : UInt32)
    (wake : WakeUp F) : Prop where
  mem_lanes_iff : ∀ lane, lane ∈ wake.lanes (wake.waiting core destReg) ↔
    lane < wake.width ∧ destReg.toNat + lane < core.registers.length
  register : ∀ lane ∈ wake.lanes (wake.waiting core destReg),
    (wake.waiting core destReg).pendingDestReg + lane =
      (destReg.toNat + lane : Nat)
  inside : ∀ lane ∈ wake.lanes (wake.waiting core destReg),
    0 ≤ (wake.waiting core destReg).pendingDestReg + lane ∧
      (wake.waiting core destReg).pendingDestReg + lane <
        core.registers.length

/-- A waiting core is woken: its stores are the ones above and stay in the
file, a register of the file holds the value that arrived in its lane, or what
it held before where there is no such lane, and the core runs on. -/
structure WritesBack
    (ops : FloatOps F)
    (this : Nat)
    (core : SIMDCore F)
    (destReg : UInt32)
    (wake : WakeUp F) : Prop extends StoresInside core destReg wake where
  stores :
    (wake.wakes ops this (wake.waiting core destReg)).registers =
      core.registers.storeLanes (wake.waiting core destReg).pendingDestReg
        (wake.values ops core) (wake.lanes (wake.waiting core destReg))
  registers : ∀ reg,
    (wake.wakes ops this (wake.waiting core destReg)).registers[reg]? =
      if destReg.toNat ≤ reg ∧ reg - destReg.toNat < wake.width ∧
          reg < core.registers.length then
        (wake.values ops core)[reg - destReg.toNat]?
      else core.registers[reg]?
  released :
    (wake.wakes ops this (wake.waiting core destReg)).isStalled = false

end WakeUp

/-! ## Counting lanes -/

theorem mem_takeWhile_range
    {test : Nat → Bool}
    (falling : ∀ lane other, lane ≤ other → test other = true →
      test lane = true)
    (count lane : Nat) :
    lane ∈ (List.range count).takeWhile test ↔
      lane < count ∧ test lane = true := by
  constructor
  · intro member
    have sublist := List.takeWhile_sublist test (l := List.range count)
    exact ⟨List.mem_range.mp (sublist.subset member),
      List.mem_takeWhile_imp member⟩
  · rintro ⟨inside, passes⟩
    have parts : List.range count =
        List.range (lane + 1) ++
          (List.range (count - (lane + 1))).map (lane + 1 + ·) := by
      rw [← List.range_add]
      congr 1
      omega
    have all : (List.range (lane + 1)).takeWhile test =
        List.range (lane + 1) := by
      apply List.takeWhile_eq_self_iff.mpr
      intro other member
      exact falling other lane
        (Nat.le_of_lt_succ (List.mem_range.mp member)) passes
    rw [parts, List.takeWhile_append, if_pos (congrArg List.length all)]
    apply List.mem_append_left
    exact List.mem_range.mpr (Nat.lt_succ_self lane)

namespace SIMDCore

variable {F : Type}

/-- A reply copies the lanes the file has left for it, or too many: the
difference wraps when the pending register is past the end, and a negative one
is never in range. -/
theorem replyCount_cases
    {core : SIMDCore F}
    {numRegisters destReg : UInt32}
    (size : core.registers.length = numRegisters.toNat)
    (pending : core.pendingDestReg = toInt32 destReg.toNat)
    (payload : Nat) :
    destReg.toNat < 2 ^ 31 ∧ destReg.toNat ≤ numRegisters.toNat ∧
        (core.replyCount payload).toNat =
          min (min 16 payload) (numRegisters.toNat - destReg.toNat) ∨
      (2 ^ 31 ≤ destReg.toNat ∨ numRegisters.toNat < destReg.toNat) ∧
        0 < (core.replyCount payload).toNat := by
  have destBound := destReg.toNat_lt
  have fileBound := numRegisters.toNat_lt
  rw [← size] at fileBound ⊢
  rcases toInt32_cases destReg with ⟨small, same⟩ | ⟨large, wraps⟩
  · have isPending : (core.pendingDestReg % 2 ^ 64).toNat =
        destReg.toNat := by
      omega
    rw [toNat_replyCount isPending (by omega)]
    split
    · omega
    · omega
  · have isPending : (core.pendingDestReg % 2 ^ 64).toNat =
        2 ^ 64 - 2 ^ 32 + destReg.toNat := by
      omega
    rw [toNat_replyCount isPending (by omega)]
    split
    · omega
    · omega

/-- A reply that is accepted stores as many lanes as it copies. -/
theorem replyLanes_of_accepts
    {core : SIMDCore F}
    (accepts : (!core.isStalled || core.pendingDestReg == -1) = false)
    (payload : Nat) :
    core.replyLanes payload = List.range (core.replyCount payload).toNat := by
  rw [replyLanes, accepts, if_neg Bool.false_ne_true]

theorem isStalled_onMemoryReply
    (core : SIMDCore F)
    (payload : List F) :
    (core.onMemoryReply payload).isStalled =
      (core.isStalled && core.pendingDestReg == -1) := by
  unfold onMemoryReply
  split
  case isTrue ignored =>
    rw [Bool.or_eq_true, Bool.not_eq_true'] at ignored
    rcases ignored with running | absent
    · rw [running, Bool.false_and]
    · rw [absent, Bool.and_true]
  case isFalse accepted =>
    rw [Bool.not_eq_true, Bool.or_eq_false_iff] at accepted
    rw [accepted.2, Bool.and_false]

theorem mem_gruLanes (core : SIMDCore F) (lane : Nat) :
    lane ∈ core.gruLanes ↔
      lane < 16 ∧
        core.pendingDestReg + lane < toInt32 core.registers.length := by
  unfold gruLanes
  rw [mem_takeWhile_range, decide_eq_true_eq]
  intro lane other before passes
  rw [decide_eq_true_eq] at passes ⊢
  omega

theorem mem_drainLanes
    (core : SIMDCore F)
    (piccolo : PiccoloGatherController)
    (lane : Nat) :
    lane ∈ core.drainLanes piccolo ↔
      lane < piccolo.db.size ∧ (lane : Int) < toInt32 piccolo.numElems ∧
        core.pendingDestReg + lane < toInt32 core.registers.length := by
  unfold drainLanes
  rw [mem_takeWhile_range, decide_eq_true_eq]
  intro lane other before passes
  rw [decide_eq_true_eq] at passes ⊢
  omega

/-- With the cell done, its wait writes back and releases the core. -/
theorem tickGruWait_of_isDone
    [Zero F] [One F] [Add F] [Sub F] [Mul F]
    {ops : FloatOps F}
    {core : SIMDCore F}
    {sa : SystolicArray F}
    {feeder : ArrayFeeder F}
    (ready : (GRUCell.tick ops ⟨core.gruCell, sa, feeder⟩).cell.isDone =
      true) :
    (core.tickGruWait ops (some (sa, feeder))).1 =
      { core with
        gruCell := (GRUCell.tick ops ⟨core.gruCell, sa, feeder⟩).cell
        registers := core.writeBackGru
          (GRUCell.tick ops ⟨core.gruCell, sa, feeder⟩).cell.hNew
        isStalled := false
        isWaitingForGru := false
        pendingDestReg := -1
        gruSa := none
        gruFeeder := none } := by
  unfold tickGruWait
  simp only
  rw [if_pos ready]
  rfl

end SIMDCore

namespace WakeUp

variable {F : Type}
variable [Zero F] [One F] [Add F] [Sub F] [Mul F] [Div F] [NatCast F]
variable {ops : FloatOps F} {this : Nat} {core : SIMDCore F}
variable {numRegisters destReg : UInt32} {wake : WakeUp F}

/-! ## The registers afterwards -/

/-- Waking a core stores its lanes and writes no other register. -/
theorem registers_wakes
    (arrives : wake.Arrives ops core) :
    (wake.wakes ops this (wake.waiting core destReg)).registers =
      core.registers.storeLanes (wake.waiting core destReg).pendingDestReg
        (wake.values ops core) (wake.lanes (wake.waiting core destReg)) := by
  rw [← wake.registers_waiting core destReg]
  cases wake with
  | reply payload => exact SIMDCore.registers_onMemoryReply _ payload
  | gathered piccolo hardware =>
      have drained := SIMDCore.registers_drainDataBuffer ops piccolo.db.size 0
        piccolo.numElems ((gathered piccolo hardware).waiting core destReg)
        piccolo rfl
      simp only [add_zero, zero_add] at drained
      rw [wakes_gathered, SIMDCore.tickPiccoloWait, if_pos arrives.1]
      exact drained
  | updated piccolo sa feeder =>
      let waits := (updated piccolo sa feeder).waiting core destReg
      have sameCell : (GRUCell.tick ops ⟨waits.gruCell, sa, feeder⟩).cell =
          cell ops core sa feeder := rfl
      have ready : (GRUCell.tick ops
          ⟨waits.gruCell, sa, feeder⟩).cell.isDone = true := arrives
      rw [wakes_updated, values, lanes, SIMDCore.tickGruWait_of_isDone ready]
      simp only
      rw [← sameCell]
      exact waits.registers_writeBackGru _

omit [Div F] [NatCast F] in
theorem width_le_length_values
    (wake : WakeUp F)
    (ops : FloatOps F)
    (core : SIMDCore F) :
    wake.width ≤ (wake.values ops core).length := by
  cases wake with
  | reply payload => exact Nat.min_le_right _ _
  | gathered piccolo hardware =>
      rw [values, List.length_map, RingBuffer.length_contents]
      exact Nat.min_le_left _ _
  | updated piccolo sa feeder =>
      rw [values, List.length_ofFn]
      exact Nat.le_refl 16

/-- After stores inside the file the registers hold the values that arrived;
the others are unchanged. -/
theorem StoresInside.getElem?_wakes
    (inside : StoresInside core destReg wake)
    (arrives : wake.Arrives ops core)
    (reg : Nat) :
    (wake.wakes ops this (wake.waiting core destReg)).registers[reg]? =
      if destReg.toNat ≤ reg ∧ reg - destReg.toNat < wake.width ∧
          reg < core.registers.length then
        (wake.values ops core)[reg - destReg.toNat]?
      else core.registers[reg]? := by
  have wide := wake.width_le_length_values ops core
  have base : core.registers.storeLanes
      (wake.waiting core destReg).pendingDestReg (wake.values ops core)
        (wake.lanes (wake.waiting core destReg)) =
      core.registers.storeLanes destReg.toNat (wake.values ops core)
        (wake.lanes (wake.waiting core destReg)) := by
    unfold Registers.storeLanes
    apply List.foldl_ext
    intro registers lane member
    have register := inside.register lane member
    rw [Nat.cast_add] at register
    rw [register]
  rw [registers_wakes arrives, base, Registers.getElem?_storeLanes]
  · refine if_congr ?_ rfl rfl
    rw [inside.mem_lanes_iff]
    omega
  · intro lane member
    exact ((inside.mem_lanes_iff lane).mp member).1.trans_le wide

/-- A wake-up writes back when its stores stay in the file and it releases the
core. -/
theorem StoresInside.writesBack
    (inside : StoresInside core destReg wake)
    (arrives : wake.Arrives ops core)
    (released :
      (wake.wakes ops this (wake.waiting core destReg)).isStalled = false) :
    WritesBack ops this core destReg wake where
  toStoresInside := inside
  stores := registers_wakes arrives
  registers := inside.getElem?_wakes arrives
  released := released

/-! ## When the conversions keep the values -/

/-- A write-back counted in `int` stores its lanes when the conversions keep
the register operand and the size of the file. -/
theorem writesBack_iff_of_int
    (size : core.registers.length = numRegisters.toNat)
    (counted : ∀ lane, lane ∈ wake.lanes (wake.waiting core destReg) ↔
      lane < wake.width ∧
        toInt32 destReg.toNat + lane < toInt32 core.registers.length)
    (arrives : wake.Arrives ops core)
    (released :
      (wake.wakes ops this (wake.waiting core destReg)).isStalled = false) :
    WritesBack ops this core destReg wake ↔
      wake.width = 0 ∨
        destReg.toNat < 2 ^ 31 ∧ numRegisters.toNat < 2 ^ 31 ∨
          2 ^ 31 ≤ numRegisters.toNat ∧
            numRegisters.toNat ≤ destReg.toNat := by
  have dest := toInt32_cases destReg
  have file := toInt32_cases numRegisters
  have pending := wake.pendingDestReg_waiting core destReg
  have destBound := destReg.toNat_lt
  have fileBound := numRegisters.toNat_lt
  rw [size] at counted
  constructor
  · intro writes
    have stored := writes.mem_lanes_iff 0
    have register := writes.register 0
    rw [counted] at stored register
    rw [size] at stored
    rw [pending] at register
    omega
  · intro kept
    refine StoresInside.writesBack ⟨?_, ?_, ?_⟩ arrives released
    · intro lane
      rw [counted, size]
      omega
    · intro lane stored
      have := (counted lane).mp stored
      rw [pending]
      omega
    · intro lane stored
      have := (counted lane).mp stored
      rw [pending, size]
      omega

/-- A reply stores its lanes when the pending register is in the file, or just
past its end. -/
theorem writesBack_reply_iff
    (payload : List F)
    (size : core.registers.length = numRegisters.toNat) :
    WritesBack ops this core destReg (.reply payload) ↔
      destReg.toNat < 2 ^ 31 ∧ destReg.toNat ≤ numRegisters.toNat := by
  let waits := (WakeUp.reply payload).waiting core destReg
  have pending : waits.pendingDestReg = toInt32 destReg.toNat :=
    pendingDestReg_waiting _ core destReg
  have dest := toInt32_cases destReg
  have file : waits.registers.length = numRegisters.toNat := size
  have counts := SIMDCore.replyCount_cases file pending payload.length
  have released := waits.isStalled_onMemoryReply payload
  by_cases absent : toInt32 destReg.toNat = -1
  · -- The register operand is the mark of an absent one: the reply is ignored.
    have ignored : (waits.onMemoryReply payload).isStalled = true := by
      rw [released, pending, absent]
      rfl
    constructor
    · intro writes
      exact absurd (ignored.symm.trans writes.released) Bool.noConfusion
    · omega
  · have accepts : (!waits.isStalled || waits.pendingDestReg == -1) =
        false := by
      rw [pending, beq_eq_false_iff_ne.mpr absent]
      rfl
    have stored : ∀ lane,
        lane ∈ (WakeUp.reply payload).lanes waits ↔
          lane < (waits.replyCount payload.length).toNat := by
      intro lane
      rw [← List.mem_range, ← SIMDCore.replyLanes_of_accepts accepts]
      rfl
    constructor
    · intro writes
      have first := (writes.mem_lanes_iff 0).mp
      have register := writes.register 0
      rw [stored, size] at first
      rw [stored, pendingDestReg_waiting] at register
      omega
    · intro kept
      refine StoresInside.writesBack ⟨?_, ?_, ?_⟩ trivial ?_
      · intro lane
        rw [stored, size]
        change _ ↔ lane < min 16 payload.length ∧ _
        omega
      · intro lane member
        rw [pendingDestReg_waiting]
        omega
      · intro lane member
        rw [stored] at member
        rw [pendingDestReg_waiting, size]
        omega
      · rw [wakes, released, pending, beq_eq_false_iff_ne.mpr absent,
          Bool.and_false]

theorem writesBack_gathered_iff
    (piccolo : PiccoloGatherController)
    (hardware : Option (SystolicArray F × ArrayFeeder F))
    (size : core.registers.length = numRegisters.toNat)
    (arrives : Arrives ops core (.gathered piccolo hardware)) :
    WritesBack ops this core destReg (.gathered piccolo hardware) ↔
      (WakeUp.gathered piccolo hardware : WakeUp F).width = 0 ∨
        destReg.toNat < 2 ^ 31 ∧ numRegisters.toNat < 2 ^ 31 ∨
          2 ^ 31 ≤ numRegisters.toNat ∧
            numRegisters.toNat ≤ destReg.toNat := by
  obtain ⟨sizeBytes, batch⟩ := arrives.2
  have bound := sizeBytes.toNat_lt
  apply writesBack_iff_of_int size
  · intro lane
    have counted := SIMDCore.mem_drainLanes
      ((WakeUp.gathered piccolo hardware).waiting core destReg) piccolo lane
    rw [toInt32_of_lt (by omega : piccolo.numElems < 2 ^ 31),
      pendingDestReg_waiting, registers_waiting] at counted
    change _ ↔ lane < min piccolo.db.size piccolo.numElems ∧ _
    rw [Nat.lt_min, and_assoc]
    exact counted.trans (by rw [Nat.cast_lt])
  · exact arrives
  · rw [wakes_gathered, SIMDCore.tickPiccoloWait, if_pos arrives.1]
    rfl

theorem writesBack_updated_iff
    (piccolo : PiccoloGatherController)
    (sa : SystolicArray F)
    (feeder : ArrayFeeder F)
    (size : core.registers.length = numRegisters.toNat)
    (arrives : Arrives ops core (.updated piccolo sa feeder)) :
    WritesBack ops this core destReg (.updated piccolo sa feeder) ↔
      (WakeUp.updated piccolo sa feeder).width = 0 ∨
        destReg.toNat < 2 ^ 31 ∧ numRegisters.toNat < 2 ^ 31 ∨
          2 ^ 31 ≤ numRegisters.toNat ∧
            numRegisters.toNat ≤ destReg.toNat := by
  let waits := (WakeUp.updated piccolo sa feeder).waiting core destReg
  have ready : (GRUCell.tick ops ⟨waits.gruCell, sa, feeder⟩).cell.isDone =
      true := arrives
  apply writesBack_iff_of_int size
  · intro lane
    have counted := SIMDCore.mem_gruLanes
      ((WakeUp.updated piccolo sa feeder).waiting core destReg) lane
    rw [pendingDestReg_waiting, registers_waiting] at counted
    exact counted
  · exact arrives
  · rw [wakes_updated, SIMDCore.tickGruWait_of_isDone ready]

/-- A wake-up writes back exactly the lanes whose register exists, and releases
the core, when its conversions keep the register operand and the size. -/
theorem writesBack_iff_representable
    (ops : FloatOps F)
    (this : Nat)
    (core : SIMDCore F)
    (numRegisters destReg : UInt32)
    (wake : WakeUp F)
    (size : core.registers.length = numRegisters.toNat)
    (arrives : wake.Arrives ops core) :
    WritesBack ops this core destReg wake ↔
      wake.Representable numRegisters.toNat destReg := by
  cases wake with
  | reply payload => exact writesBack_reply_iff payload size
  | gathered piccolo hardware =>
      exact writesBack_gathered_iff piccolo hardware size arrives
  | updated piccolo sa feeder =>
      exact writesBack_updated_iff piccolo sa feeder size arrives

/-! ## Replies at the end of the file -/

/-- A reply for the last registers of a file stores the lanes that fit. -/
theorem lastRegisters_writesBack :
    WritesBack FloatOps.atZero 0 (SIMDCore.initial 0 0 0 0 256) 250
      (.reply (List.replicate 16 1)) :=
  (writesBack_iff_representable FloatOps.atZero 0
    (SIMDCore.initial 0 0 0 0 256) 256 250 (.reply (List.replicate 16 1))
    List.length_replicate trivial).mpr ⟨by decide, by decide⟩

/-- A reply for a register behind the file is copied behind it. -/
theorem pastEnd_not_writesBack :
    ¬ WritesBack FloatOps.atZero 0 (SIMDCore.initial 0 0 0 0 256) 257
      (.reply (List.replicate 16 1)) := by
  intro writes
  have size : (SIMDCore.initial 0 0 0 0 256 : SIMDCore ℚ).registers.length =
      (256 : UInt32).toNat := List.length_replicate
  have kept := (writesBack_reply_iff _ size).mp writes
  exact absurd kept.2 (by decide)

end WakeUp

end PimGraphs
