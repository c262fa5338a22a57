import PimGraphs.Simulator.Admission

/-!
# A memory with a fixed latency

The simplest memory that meets the interface: it accepts every read and fires
each one a fixed number of ticks later.
-/

namespace PimGraphs

namespace FixedLatency

/-- One tick: reads on their last tick fire, the others move on. -/
def tick (waiting : List (Nat × Nat)) : List (Nat × Nat) × List Nat :=
  ((waiting.filter fun entry => decide (1 < entry.1)).map
      fun entry => (entry.1 - 1, entry.2),
    (waiting.filter fun entry => !decide (1 < entry.1)).map Prod.snd)

/-- Slots that wait, whatever their remaining time. -/
def held (waiting : List (Nat × Nat)) : Multiset Nat :=
  (waiting.map Prod.snd : List Nat)

theorem held_tick (waiting : List (Nat × Nat)) :
    held waiting =
      held (tick waiting).1 + ((tick waiting).2 : Multiset Nat) := by
  have split := List.filter_append_perm
    (fun entry : Nat × Nat => decide (1 < entry.1)) waiting
  rw [held, held, tick, Multiset.coe_add, Multiset.coe_eq_coe, List.map_map]
  apply (split.map Prod.snd).symm.trans
  rw [List.map_append]
  exact List.Perm.refl _

/-- The memory that fires every read after `latency` ticks. -/
def ramulator (latency : Nat) : Ramulator (List (Nat × Nat)) where
  tCK := 1
  send := fun waiting _ slot => some (waiting ++ [(latency, slot)])
  tick := tick
  held := held
  held_send := by
    intro state next addr slot accepted
    obtain rfl := Option.some.inj accepted
    simp [held, ← Multiset.coe_add, add_comm]
  held_tick := held_tick

/-- Accepting reads loses none of those that wait. -/
theorem mem_of_accepts
    {latency : Nat}
    {first last : List (Nat × Nat)}
    (accepts : (ramulator latency).Accepts first last)
    {entry : Nat × Nat}
    (waits : entry ∈ first) :
    entry ∈ last := by
  induction accepts with
  | refl => exact waits
  | send _ accepted inductionHypothesis =>
      obtain rfl := Option.some.inj accepted
      exact List.mem_append_left _ inductionHypothesis

/-- Every read is served. -/
theorem live (latency : Nat) : (ramulator latency).Live := by
  intro states loaded runs slot held
  have fires (remaining : Nat) :
      ∀ time, (remaining, slot) ∈ states time →
        ∃ later, slot ∈ (tick (loaded later)).2 := by
    induction remaining with
    | zero =>
        intro time waits
        have stillWaits := mem_of_accepts (runs time).1 waits
        refine ⟨time, List.mem_map.mpr ⟨(0, slot), ?_, rfl⟩⟩
        simpa using stillWaits
    | succ remaining inductionHypothesis =>
        intro time waits
        have stillWaits := mem_of_accepts (runs time).1 waits
        rcases Nat.eq_zero_or_pos remaining with last | more
        · subst last
          refine ⟨time, List.mem_map.mpr ⟨(1, slot), ?_, rfl⟩⟩
          simpa using stillWaits
        · apply inductionHypothesis (time + 1)
          rw [(runs time).2]
          refine List.mem_map.mpr ⟨(remaining + 1, slot), ?_, rfl⟩
          simpa [more] using stillWaits
  obtain ⟨entry, waits, rfl⟩ := List.mem_map.mp (Multiset.mem_coe.mp held)
  exact fires entry.1 0 waits

end FixedLatency

end PimGraphs
