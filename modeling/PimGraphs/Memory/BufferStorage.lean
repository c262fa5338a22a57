import PimGraphs.Library.BoundedFifo
import PimGraphs.Memory.Piccolo

/-!
# The storage of the offset and data buffers

The two buffer classes with the fields and the arithmetic of the source.
Reading or writing the storage outside its bounds and reducing modulo zero are
faults here.  A ring buffer, whose bounds are fields, is stored without faults.
-/

namespace PimGraphs

/-- What must not happen to a buffer. -/
inductive BufferFault
  /-- More elements than a vector may have. -/
  | lengthError
  | outOfBounds
  | zeroModulus
  deriving DecidableEq, Repr

/-- Largest size of a vector of 32-bit elements: its bytes are counted by a
`std::ptrdiff_t`. -/
def maxEntries : Nat := (2 ^ 63 - 1) / 4

/-- The private fields of both buffer classes. -/
structure BufferStorage where
  cap : UInt64
  data : List UInt32
  head : UInt64 := 0
  size : UInt64 := 0
  deriving DecidableEq, Repr

/-- `data_(capacity_entries, 0)`, and a reservation without effect. -/
def OffsetBuffer.construct (capacityEntries : UInt64) :
    Except BufferFault BufferStorage :=
  if maxEntries < capacityEntries.toNat then .error .lengthError
  else .ok {
    cap := capacityEntries
    data := List.replicate capacityEntries.toNat 0 }

/-- The data buffer reserves its storage only. -/
def DataBuffer.construct (capacityElems : UInt64) :
    Except BufferFault BufferStorage :=
  if maxEntries < capacityElems.toNat then .error .lengthError
  else .ok { cap := capacityElems, data := [] }

namespace BufferStorage

/-- `std::vector::resize` to a larger size. -/
def grow (data : List UInt32) (size : UInt64) : List UInt32 :=
  data ++ List.replicate (size.toNat - data.length) 0

/-- `data_[index]`. -/
def read (data : List UInt32) (index : UInt64) : Except BufferFault UInt32 :=
  match data[index.toNat]? with
  | none => .error .outOfBounds
  | some value => .ok value

/-- `data_[index] = value`. -/
def write (data : List UInt32) (index : UInt64) (value : UInt32) :
    Except BufferFault (List UInt32) :=
  if index.toNat < data.length then .ok (data.set index.toNat value)
  else .error .outOfBounds

/-- `value % modulus`. -/
def modulo (value modulus : UInt64) : Except BufferFault UInt64 :=
  if modulus = 0 then .error .zeroModulus else .ok (value % modulus)

variable (storage : BufferStorage)

/-- The buffer holds nothing. -/
def empty : Bool := decide (storage.size = 0)

/-- The buffer holds as much as its capacity. -/
def full : Bool := decide (storage.cap ≤ storage.size)

/-- Forget what is held. -/
def clear : BufferStorage := { storage with head := 0, size := 0 }

/-- Store a value behind the others, unless the buffer is full. -/
def push (value : UInt32) : Except BufferFault BufferStorage :=
  if storage.full then .ok storage else do
    let data :=
      if storage.data.length < storage.cap.toNat then
        grow storage.data storage.cap
      else storage.data
    let index ← modulo (storage.head + storage.size) storage.cap
    let data ← write data index value
    return { storage with data := data, size := storage.size + 1 }

/-- The oldest value, or zero. -/
def front : Except BufferFault UInt32 :=
  if storage.empty then .ok 0 else read storage.data storage.head

/-- Drop the oldest value, if there is one. -/
def pop : Except BufferFault BufferStorage :=
  if storage.empty then .ok storage else do
    let head ← modulo (storage.head + 1) storage.cap
    return { storage with head := head, size := storage.size - 1 }

/-! ## Ring buffers in storage -/

/-- A ring buffer with its numbers as machine words. -/
def ofRing (buffer : RingBuffer UInt32) : BufferStorage where
  cap := UInt64.ofNat buffer.cap
  data := buffer.data
  head := UInt64.ofNat buffer.head
  size := UInt64.ofNat buffer.size

section Stored

variable {buffer : RingBuffer UInt32} (fits : buffer.cap ≤ maxEntries)
include fits

theorem toNat_cap : (ofRing buffer).cap.toNat = buffer.cap := by
  unfold maxEntries at fits
  rw [ofRing, UInt64.toNat_ofNat', Nat.mod_eq_of_lt (by omega)]

theorem toNat_size : (ofRing buffer).size.toNat = buffer.size := by
  have held := buffer.size_le_cap
  unfold maxEntries at fits
  rw [ofRing, UInt64.toNat_ofNat', Nat.mod_eq_of_lt (by omega)]

theorem toNat_head (room : 0 < buffer.cap) :
    (ofRing buffer).head.toNat = buffer.head := by
  have inside := buffer.head_lt_cap room
  unfold maxEntries at fits
  rw [ofRing, UInt64.toNat_ofNat', Nat.mod_eq_of_lt (by omega)]

theorem empty_iff : (ofRing buffer).empty = true ↔ buffer.size = 0 := by
  rw [empty, decide_eq_true_eq, ← UInt64.toNat_inj, toNat_size fits]
  rfl

theorem full_iff :
    (ofRing buffer).full = true ↔ buffer.cap ≤ buffer.size := by
  rw [full, decide_eq_true_eq, UInt64.le_iff_toNat_le, toNat_cap fits,
    toNat_size fits]

/-- The modulus of a buffer with room for an element is not zero. -/
theorem modulo_cap
    (room : 0 < buffer.cap)
    (value : UInt64) :
    modulo value (ofRing buffer).cap =
      .ok (UInt64.ofNat (value.toNat % buffer.cap)) := by
  have positive : (ofRing buffer).cap ≠ 0 := by
    intro zero
    have noCells := toNat_cap fits
    rw [zero, UInt64.toNat_zero] at noCells
    omega
  rw [modulo, if_neg positive]
  apply congrArg Except.ok
  apply UInt64.toNat_inj.mp
  have below := Nat.mod_lt value.toNat room
  unfold maxEntries at fits
  rw [UInt64.toNat_mod, toNat_cap (by unfold maxEntries; omega),
    UInt64.toNat_ofNat', Nat.mod_eq_of_lt (a := value.toNat % _) (by omega)]

/-- The sum of the head and a distance behind it does not wrap. -/
theorem toNat_head_add
    (room : 0 < buffer.cap)
    {distance : UInt64}
    (near : distance.toNat ≤ buffer.cap) :
    ((ofRing buffer).head + distance).toNat =
      buffer.head + distance.toNat := by
  have inside := buffer.head_lt_cap room
  have head := toNat_head fits room
  unfold maxEntries at fits
  rw [UInt64.toNat_add, head, Nat.mod_eq_of_lt (by omega)]

/-- A push grows the storage to all its cells. -/
theorem grown_eq_allocated :
    (if (ofRing buffer).data.length < (ofRing buffer).cap.toNat then
        grow (ofRing buffer).data (ofRing buffer).cap
      else (ofRing buffer).data) = buffer.allocated := by
  rw [grow, toNat_cap fits]
  split
  case isTrue _ => rfl
  case isFalse whole =>
    have none : buffer.cap - buffer.data.length = 0 :=
      Nat.sub_eq_zero_of_le (Nat.le_of_not_lt whole)
    rw [RingBuffer.allocated, none, List.replicate_zero, List.append_nil]
    rfl

/-- A push writes inside the storage. -/
theorem push_ofRing (value : UInt32) :
    (ofRing buffer).push value = .ok (ofRing (buffer.push value)) := by
  unfold push
  by_cases isFull : buffer.cap ≤ buffer.size
  · rw [if_pos ((full_iff fits).mpr isFull), buffer.push_of_full value isFull]
  · have room : 0 < buffer.cap := by omega
    have near : (ofRing buffer).size.toNat ≤ buffer.cap := by
      rw [toNat_size fits]
      exact buffer.size_le_cap
    have bound := buffer.slot_lt buffer.size room
    have slot : (UInt64.ofNat (buffer.slot buffer.size)).toNat =
        buffer.slot buffer.size := by
      unfold maxEntries at fits
      rw [UInt64.toNat_ofNat', Nat.mod_eq_of_lt (by omega)]
    have written : write buffer.allocated
        (UInt64.ofNat (buffer.slot buffer.size)) value =
          .ok (buffer.allocated.set (buffer.slot buffer.size) value) := by
      rw [← buffer.length_allocated] at bound
      rw [write, slot, if_pos bound]
    rw [if_neg ((not_congr (full_iff fits)).mpr isFull),
      grown_eq_allocated fits, modulo_cap fits room,
      toNat_head_add fits room near, toNat_size fits]
    change (write buffer.allocated
        (UInt64.ofNat (buffer.slot buffer.size)) value >>= _) = _
    rw [written]
    unfold RingBuffer.push
    rw [dif_neg isFull]
    simp only [ofRing, UInt64.ofNat_add]
    rfl

/-- The front is read inside the storage. -/
theorem front_ofRing : (ofRing buffer).front = .ok buffer.front := by
  unfold front RingBuffer.front
  by_cases isEmpty : buffer.size = 0
  · rw [if_pos ((empty_iff fits).mpr isEmpty), if_pos isEmpty]
    rfl
  · have held := buffer.size_le_cap
    have room : 0 < buffer.cap := by omega
    have inside : buffer.head < buffer.data.length := by
      rw [buffer.data_length_eq (by omega)]
      exact buffer.head_lt_cap room
    rw [if_neg ((not_congr (empty_iff fits)).mpr isEmpty), if_neg isEmpty,
      read, toNat_head fits room]
    simp only [ofRing, List.getElem?_eq_getElem inside,
      List.getD_eq_getElem?_getD, Option.getD_some]

theorem pop_ofRing : (ofRing buffer).pop = .ok (ofRing buffer.pop) := by
  unfold pop
  by_cases isEmpty : buffer.size = 0
  · rw [if_pos ((empty_iff fits).mpr isEmpty), RingBuffer.pop,
      dif_pos isEmpty]
  · have held := buffer.size_le_cap
    have room : 0 < buffer.cap := by omega
    have next : (1 : UInt64).toNat ≤ buffer.cap := room
    obtain ⟨rest, isSize⟩ := Nat.exists_eq_add_one.mpr
      (Nat.pos_of_ne_zero isEmpty)
    rw [if_neg ((not_congr (empty_iff fits)).mpr isEmpty),
      modulo_cap fits room, toNat_head_add fits room next]
    unfold RingBuffer.pop
    rw [dif_neg isEmpty]
    apply congrArg Except.ok
    simp [ofRing, isSize]

end Stored

end BufferStorage

/-! ## Sequences of operations -/

open BoundedFifo

/-- A buffer of either class, and the values read at its front so far. -/
structure StoredBuffer where
  storage : BufferStorage
  fronts : List UInt32 := []

namespace StoredBuffer

/-- One operation on a stored buffer. -/
def next (state : StoredBuffer) :
    Op UInt32 → Except BufferFault StoredBuffer
  | .push value => do
      return { state with storage := ← state.storage.push value }
  | .pop => do
      return { state with storage := ← state.storage.pop }
  | .clear => .ok { state with storage := state.storage.clear }
  | .front => do
      return { state with fronts := state.fronts ++ [← state.storage.front] }

/-- All of some operations, none of which faults. -/
def after (start : BufferStorage) (ops : List (Op UInt32)) :
    Except BufferFault StoredBuffer :=
  ops.foldlM next { storage := start }

/-- A ring buffer and its history in storage. -/
def ofRinged (state : Ringed UInt32) : StoredBuffer where
  storage := .ofRing state.buffer
  fronts := state.fronts

/-- No operation on a stored ring buffer faults. -/
theorem next_ofRinged
    {state : Ringed UInt32}
    (fits : state.buffer.cap ≤ maxEntries)
    (op : Op UInt32) :
    (ofRinged state).next op = .ok (ofRinged (state.next op)) := by
  cases op with
  | push value =>
      simp only [next, ofRinged, BufferStorage.push_ofRing fits]
      rfl
  | pop =>
      simp only [next, ofRinged, BufferStorage.pop_ofRing fits]
      rfl
  | clear => rfl
  | front =>
      simp only [next, ofRinged, BufferStorage.front_ofRing fits]
      rfl

theorem foldlM_next_ofRinged
    (state : Ringed UInt32)
    (fits : state.buffer.cap ≤ maxEntries)
    (ops : List (Op UInt32)) :
    ops.foldlM next (ofRinged state) =
      .ok (ofRinged (Run.after Ringed.next state ops)) := by
  induction ops generalizing state with
  | nil => rfl
  | cons op rest inductionHypothesis =>
      have stays : (state.next op).buffer.cap ≤ maxEntries := by
        rw [Ringed.cap_next]
        exact fits
      rw [List.foldlM_cons, next_ofRinged fits]
      exact inductionHypothesis _ stays

/-- A buffer as it is built behaves as a list of bounded length: no operation
faults, the fronts read are those of the list, and the size is its length.
Only a capacity that no vector can have is not built. -/
def BehavesAsList (capacity : UInt64) (ops : List (Op UInt32)) :
    Except BufferFault BufferStorage → Prop
  | .error fault => fault = .lengthError ∧ maxEntries < capacity.toNat
  | .ok start =>
      let list := Run.after (Listed.next capacity.toNat) {} ops
      ∃ last, after start ops = .ok last ∧
        last.fronts = list.fronts ∧
          last.storage.size.toNat = list.held.length ∧
            (last.storage.empty = true ↔ list.held = []) ∧
              (last.storage.full = true ↔
                capacity.toNat ≤ list.held.length)

/-- The storage of an empty ring buffer. -/
theorem behavesAsList_ofRing
    {capacity : UInt64}
    {buffer : RingBuffer UInt32}
    (sameCap : buffer.cap = capacity.toNat)
    (fits : capacity.toNat ≤ maxEntries)
    (nothing : buffer.contents = [])
    (ops : List (Op UInt32)) :
    BehavesAsList capacity ops (.ok (.ofRing buffer)) := by
  let last := Run.after Ringed.next { buffer := buffer } ops
  have listed : last.listed =
      Run.after (Listed.next capacity.toNat) {} ops := by
    rw [← sameCap, Ringed.listed_after, Ringed.listed, nothing]
  have sameLast : last.buffer.cap = capacity.toNat :=
    (Ringed.cap_after _ ops).trans sameCap
  have lastFits : last.buffer.cap ≤ maxEntries := sameLast.trans_le fits
  have size : last.buffer.size = last.listed.held.length :=
    last.buffer.length_contents.symm
  rw [BehavesAsList]
  simp only [← listed]
  refine ⟨ofRinged last, ?_, rfl, ?_, ?_, ?_⟩
  · exact foldlM_next_ofRinged { buffer := buffer } (sameCap.trans_le fits)
      ops
  · rw [← size]
    exact BufferStorage.toNat_size lastFits
  · rw [← List.length_eq_zero_iff, ← size]
    exact BufferStorage.empty_iff lastFits
  · rw [← size, ← sameLast]
    exact BufferStorage.full_iff lastFits

/-- Both buffer classes behave as lists of bounded length, whatever their
capacity and whatever is done to them. -/
theorem buffers_behaveAsList
    (capacity : UInt64)
    (ops : List (Op UInt32)) :
    BehavesAsList capacity ops (OffsetBuffer.construct capacity) ∧
      BehavesAsList capacity ops (DataBuffer.construct capacity) := by
  unfold OffsetBuffer.construct DataBuffer.construct
  by_cases tooMany : maxEntries < capacity.toNat
  · rw [if_pos tooMany, if_pos tooMany]
    exact ⟨⟨rfl, tooMany⟩, rfl, tooMany⟩
  · have fits := Nat.le_of_not_lt tooMany
    have word : UInt64.ofNat capacity.toNat = capacity := UInt64.ofNat_toNat
    have eager : BufferStorage.ofRing (OffsetBuffer.initial capacity.toNat) =
        { cap := capacity, data := List.replicate capacity.toNat 0 } := by
      rw [BufferStorage.ofRing]
      exact congrArg (BufferStorage.mk · _ 0 0) word
    have onPush : BufferStorage.ofRing (DataBuffer.initial capacity.toNat) =
        { cap := capacity, data := [] } := by
      rw [BufferStorage.ofRing]
      exact congrArg (BufferStorage.mk · _ 0 0) word
    rw [if_neg tooMany, if_neg tooMany]
    constructor
    · rw [← eager]
      exact behavesAsList_ofRing rfl fits (RingBuffer.contents_eager _) ops
    · rw [← onPush]
      exact behavesAsList_ofRing rfl fits (RingBuffer.contents_lazily _) ops

end StoredBuffer

end PimGraphs
