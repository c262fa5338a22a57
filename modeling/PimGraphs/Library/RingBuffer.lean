import Mathlib.Data.List.Range
import Mathlib.Tactic.Ring

/-!
# Bounded first-in first-out queues on circular storage

A ring buffer keeps its elements in a storage list, starting at a head index
and wrapping at the capacity.  The storage may be allocated when the buffer is
built or only at the first push, and removed elements are not overwritten.
The bounds every index computation relies on are fields of the structure.
`contents` reads the buffer as a list, and each operation is characterised by
its effect on that list.
-/

/-- A circular buffer over storage that may still have to be allocated. -/
structure RingBuffer (α : Type) where
  /-- Largest number of elements held at once. -/
  cap : Nat
  /-- Storage cells, allocated or not. -/
  data : List α
  /-- Index of the oldest element. -/
  head : Nat
  /-- Number of elements held. -/
  size : Nat
  size_le_cap : size ≤ cap
  head_lt_cap : 0 < cap → head < cap
  data_length_le : data.length ≤ cap
  data_length_eq : 0 < size → data.length = cap

namespace RingBuffer

variable {α : Type} [Inhabited α]

/-- An empty buffer whose storage is allocated at once. -/
def eager (cap : Nat) : RingBuffer α where
  cap := cap
  data := List.replicate cap default
  head := 0
  size := 0
  size_le_cap := Nat.zero_le cap
  head_lt_cap := id
  data_length_le := by simp
  data_length_eq := by simp

/-- An empty buffer whose storage is allocated by its first push. -/
def lazily (cap : Nat) : RingBuffer α where
  cap := cap
  data := []
  head := 0
  size := 0
  size_le_cap := Nat.zero_le cap
  head_lt_cap := id
  data_length_le := Nat.zero_le cap
  data_length_eq := by simp

/-- Storage extended to a full capacity's worth of cells. -/
def allocated (buffer : RingBuffer α) : List α :=
  buffer.data ++ List.replicate (buffer.cap - buffer.data.length) default

/-- Storage cell of the element at a given distance behind the head. -/
def slot (buffer : RingBuffer α) (index : Nat) : Nat :=
  (buffer.head + index) % buffer.cap

/-- The elements held, oldest first. -/
def contents (buffer : RingBuffer α) : List α :=
  (List.range buffer.size).map fun index =>
    buffer.data.getD (buffer.slot index) default

@[simp] theorem length_allocated (buffer : RingBuffer α) :
    buffer.allocated.length = buffer.cap := by
  have bound := buffer.data_length_le
  simp only [allocated, List.length_append, List.length_replicate]
  omega

omit [Inhabited α] in
theorem slot_lt
    (buffer : RingBuffer α)
    (index : Nat)
    (capPositive : 0 < buffer.cap) :
    buffer.slot index < buffer.cap :=
  Nat.mod_lt _ capPositive

omit [Inhabited α] in
/-- Two positions less than a capacity apart occupy different cells. -/
theorem slot_ne
    (buffer : RingBuffer α)
    {left right : Nat}
    (ordered : left < right)
    (close : right < buffer.cap) :
    buffer.slot left ≠ buffer.slot right := by
  intro equal
  have congruent : (buffer.head + right) % buffer.cap =
      (buffer.head + left) % buffer.cap := equal.symm
  have divides : buffer.cap ∣ (buffer.head + right) - (buffer.head + left) :=
    Nat.dvd_of_mod_eq_zero (Nat.sub_mod_eq_zero_of_mod_eq congruent)
  have small := Nat.le_of_dvd (by omega) divides
  omega

/-- Append one element unless the buffer is full. -/
def push (buffer : RingBuffer α) (value : α) : RingBuffer α :=
  if full : buffer.cap ≤ buffer.size then buffer else
    { cap := buffer.cap
      data := buffer.allocated.set (buffer.slot buffer.size) value
      head := buffer.head
      size := buffer.size + 1
      size_le_cap := by omega
      head_lt_cap := buffer.head_lt_cap
      data_length_le := by simp
      data_length_eq := by simp }

/-- Drop the oldest element, if there is one. -/
def pop (buffer : RingBuffer α) : RingBuffer α :=
  if empty : buffer.size = 0 then buffer else
    { cap := buffer.cap
      data := buffer.data
      head := (buffer.head + 1) % buffer.cap
      size := buffer.size - 1
      size_le_cap := by have := buffer.size_le_cap; omega
      head_lt_cap := Nat.mod_lt _
      data_length_le := buffer.data_length_le
      data_length_eq := fun _ => buffer.data_length_eq (by omega) }

/-- The oldest element, or the default of an empty buffer. -/
def front (buffer : RingBuffer α) : α :=
  if buffer.size = 0 then default else buffer.data.getD buffer.head default

/-- Forget every element, leaving the storage as it is. -/
def clear (buffer : RingBuffer α) : RingBuffer α where
  cap := buffer.cap
  data := buffer.data
  head := 0
  size := 0
  size_le_cap := Nat.zero_le _
  head_lt_cap := id
  data_length_le := buffer.data_length_le
  data_length_eq := by simp

@[simp] theorem length_contents (buffer : RingBuffer α) :
    buffer.contents.length = buffer.size := by
  simp [contents]

@[simp] theorem contents_eager (cap : Nat) :
    (eager cap : RingBuffer α).contents = [] := rfl

@[simp] theorem contents_lazily (cap : Nat) :
    (lazily cap : RingBuffer α).contents = [] := rfl

@[simp] theorem contents_clear (buffer : RingBuffer α) :
    buffer.clear.contents = [] := rfl

omit [Inhabited α] in
@[simp] theorem cap_clear (buffer : RingBuffer α) :
    buffer.clear.cap = buffer.cap := rfl

@[simp] theorem cap_push (buffer : RingBuffer α) (value : α) :
    (buffer.push value).cap = buffer.cap := by
  unfold push
  split <;> rfl

omit [Inhabited α] in
@[simp] theorem cap_pop (buffer : RingBuffer α) :
    buffer.pop.cap = buffer.cap := by
  unfold pop
  split <;> rfl

/-- A full buffer ignores a push. -/
theorem push_of_full
    (buffer : RingBuffer α)
    (value : α)
    (full : buffer.cap ≤ buffer.size) :
    buffer.push value = buffer := by
  simp [push, full]

/-- Allocation does not disturb the elements already held. -/
theorem getD_allocated
    (buffer : RingBuffer α)
    {index : Nat}
    (held : index < buffer.size) :
    buffer.allocated.getD (buffer.slot index) default =
      buffer.data.getD (buffer.slot index) default := by
  have positive : 0 < buffer.cap := by
    have := buffer.size_le_cap
    omega
  have inside : buffer.slot index < buffer.data.length := by
    rw [buffer.data_length_eq (by omega)]
    exact buffer.slot_lt index positive
  simp only [allocated, List.getD_eq_getElem?_getD]
  rw [List.getElem?_append_left inside]

/-- A push with room left appends its element. -/
theorem contents_push_of_room
    (buffer : RingBuffer α)
    (value : α)
    (room : buffer.size < buffer.cap) :
    (buffer.push value).contents = buffer.contents ++ [value] := by
  have notFull : ¬ buffer.cap ≤ buffer.size := by omega
  have positive : 0 < buffer.cap := by omega
  simp only [push, notFull, dite_false, contents, List.range_succ,
    List.map_append, List.map_cons, List.map_nil]
  congr 1
  · apply List.map_congr_left
    intro index member
    have held : index < buffer.size := List.mem_range.mp member
    have differ : buffer.slot buffer.size ≠ buffer.slot index :=
      (buffer.slot_ne held room).symm
    change (buffer.allocated.set (buffer.slot buffer.size) value).getD
      (buffer.slot index) default = _
    rw [← buffer.getD_allocated held]
    simp [List.getD_eq_getElem?_getD, List.getElem?_set_ne differ]
  · change [(buffer.allocated.set (buffer.slot buffer.size) value).getD
      (buffer.slot buffer.size) default] = [value]
    have inside : buffer.slot buffer.size < buffer.allocated.length := by
      rw [length_allocated]
      exact buffer.slot_lt _ positive
    simp [List.getD_eq_getElem?_getD, List.getElem?_set_self inside]

/-- Every push appends its element or, in a full buffer, changes nothing. -/
theorem contents_push
    (buffer : RingBuffer α)
    (value : α) :
    (buffer.push value).contents =
      if buffer.contents.length < buffer.cap then
        buffer.contents ++ [value]
      else buffer.contents := by
  rw [length_contents]
  split
  case isTrue room => exact buffer.contents_push_of_room value room
  case isFalse full => rw [buffer.push_of_full value (by omega)]

/-- Pushing a list keeps as much of it as there is room for. -/
theorem contents_foldl_push (buffer : RingBuffer α) (values : List α) :
    (values.foldl push buffer).contents =
      (buffer.contents ++ values).take buffer.cap := by
  induction values generalizing buffer with
  | nil =>
      rw [List.append_nil, List.take_of_length_le]
      · rfl
      · rw [length_contents]
        exact buffer.size_le_cap
  | cons value rest inductionHypothesis =>
      rw [List.foldl_cons, inductionHypothesis, cap_push, contents_push]
      split
      case isTrue _ => rw [List.append_assoc, List.singleton_append]
      case isFalse full =>
        have filled : buffer.cap ≤ buffer.contents.length :=
          Nat.le_of_not_lt full
        rw [List.take_append_of_le_length filled,
          List.take_append_of_le_length filled]

/-- A pop drops the oldest element. -/
theorem contents_pop (buffer : RingBuffer α) :
    buffer.pop.contents = buffer.contents.tail := by
  unfold pop
  split
  case isTrue empty => simp [contents, empty]
  case isFalse held =>
    obtain ⟨rest, size_eq⟩ := Nat.exists_eq_succ_of_ne_zero held
    simp only [contents, size_eq, List.range_succ_eq_map, List.map_cons,
      List.tail_cons, List.map_map, Nat.succ_eq_add_one, Nat.add_sub_cancel]
    apply List.map_congr_left
    intro index _
    simp only [slot, Function.comp_apply, Nat.succ_eq_add_one,
      Nat.mod_add_mod]
    congr 2
    ring

/-- The front is the head of the contents. -/
theorem front_eq (buffer : RingBuffer α) :
    buffer.front = buffer.contents.headD default := by
  unfold front
  split
  case isTrue empty => simp [contents, empty]
  case isFalse held =>
    obtain ⟨rest, size_eq⟩ := Nat.exists_eq_succ_of_ne_zero held
    have inside : buffer.head < buffer.cap := by
      apply buffer.head_lt_cap
      have := buffer.size_le_cap
      omega
    simp [contents, size_eq, List.range_succ_eq_map, slot,
      Nat.mod_eq_of_lt inside]

/-- A buffer that is not empty holds its front before the rest. -/
theorem contents_eq_front_cons
    (buffer : RingBuffer α)
    (held : buffer.size ≠ 0) :
    buffer.contents = buffer.front :: buffer.pop.contents := by
  have nonempty : buffer.contents ≠ [] := fun nothing =>
    held (by rw [← length_contents, nothing, List.length_nil])
  obtain ⟨oldest, rest, contents⟩ := List.exists_cons_of_ne_nil nonempty
  rw [front_eq, contents_pop, contents]
  rfl

end RingBuffer
