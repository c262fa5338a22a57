import PimGraphs.Library.RingBuffer
import PimGraphs.Library.Run

/-!
# Bounded first-in first-out lists

A list that elements are appended to as long as it is shorter than a capacity,
and taken from at its head.  A ring buffer that goes through the same
operations shows the same elements at its front and has the list as its
contents.
-/

namespace BoundedFifo

/-- What is done to a queue. -/
inductive Op (α : Type)
  | push (value : α)
  | pop
  | clear
  /-- The front is read. -/
  | front
  deriving DecidableEq, Repr

variable {α : Type} [Inhabited α]

/-- A list, and the elements read at its front so far. -/
structure Listed (α : Type) where
  held : List α := []
  fronts : List α := []

/-- One operation on a list of bounded length. -/
def Listed.next (capacity : Nat) (state : Listed α) : Op α → Listed α
  | .push value =>
      { state with
        held :=
          if state.held.length < capacity then state.held ++ [value]
          else state.held }
  | .pop => { state with held := state.held.tail }
  | .clear => { state with held := [] }
  | .front =>
      { state with fronts := state.fronts ++ [state.held.headD default] }

/-- A ring buffer, and the elements read at its front so far. -/
structure Ringed (α : Type) where
  buffer : RingBuffer α
  fronts : List α := []

namespace Ringed

/-- One operation on a ring buffer. -/
def next (state : Ringed α) : Op α → Ringed α
  | .push value => { state with buffer := state.buffer.push value }
  | .pop => { state with buffer := state.buffer.pop }
  | .clear => { state with buffer := state.buffer.clear }
  | .front => { state with fronts := state.fronts ++ [state.buffer.front] }

/-- The list a ring buffer stands for. -/
def listed (state : Ringed α) : Listed α where
  held := state.buffer.contents
  fronts := state.fronts

theorem cap_next (state : Ringed α) (op : Op α) :
    (state.next op).buffer.cap = state.buffer.cap := by
  cases op with
  | push value => exact state.buffer.cap_push value
  | pop => exact state.buffer.cap_pop
  | clear => exact state.buffer.cap_clear
  | front => rfl

theorem listed_next (state : Ringed α) (op : Op α) :
    (state.next op).listed = state.listed.next state.buffer.cap op := by
  cases op with
  | push value =>
      exact congrArg (Listed.mk · state.fronts)
        (state.buffer.contents_push value)
  | pop =>
      exact congrArg (Listed.mk · state.fronts) state.buffer.contents_pop
  | clear => rfl
  | front =>
      simp only [next, listed, Listed.next, RingBuffer.front_eq]

theorem cap_after (state : Ringed α) (ops : List (Op α)) :
    (Run.after next state ops).buffer.cap = state.buffer.cap := by
  induction ops generalizing state with
  | nil => rfl
  | cons op rest inductionHypothesis =>
      rw [Run.after_cons, inductionHypothesis, cap_next]

/-- A ring buffer goes through any operations as its list does. -/
theorem listed_after (state : Ringed α) (ops : List (Op α)) :
    (Run.after next state ops).listed =
      Run.after (Listed.next state.buffer.cap) state.listed ops := by
  induction ops generalizing state with
  | nil => rfl
  | cons op rest inductionHypothesis =>
      rw [Run.after_cons, Run.after_cons, inductionHypothesis, listed_next,
        cap_next]

end Ringed

end BoundedFifo
