import PimGraphs.Memory.FixedLatency

/-!
# How long a memory takes

What is assumed of the memory's timing: an upper and a lower bound on the
number of ticks between accepting a read and firing it, over any sequence of
accepted reads and ticks, and that it rejects a read only while it is serving
others.
-/

namespace PimGraphs

namespace Ramulator

variable {M : Type} (ramulator : Ramulator M)

/-- The states of a memory before and after accepting reads in each cycle. -/
structure Clocked (states loaded : Nat → M) : Prop where
  accepts : ∀ time, ramulator.Accepts (states time) (loaded time)
  ticks : ∀ time, states (time + 1) = (ramulator.tick (loaded time)).1

/-- The slots that fire in a cycle. -/
def fires (loaded : M) : List Nat := (ramulator.tick loaded).2

/-- A read accepted before a tick fires in one of the `latency` ticks from
that one on. -/
def FiresWithin (latency : Nat) : Prop :=
  ∀ states loaded : Nat → M, ramulator.Clocked states loaded →
    ∀ slot ∈ ramulator.held (loaded 0), slot ∉ ramulator.held (states 0) →
      ∃ time < latency, slot ∈ ramulator.fires (loaded time)

/-- A read fires no earlier than in the `latency`-th tick after it was
accepted. -/
def FiresNotBefore (latency : Nat) : Prop :=
  ∀ states loaded : Nat → M, ramulator.Clocked states loaded →
    ∀ slot ∉ ramulator.held (states 0),
      ∀ time, slot ∈ ramulator.fires (loaded time) → latency ≤ time + 1

/-- A read is rejected only while others are being served. -/
def RejectsOnlyBusy : Prop :=
  ∀ (state : M) (addr : UInt64) (slot : Nat),
    ramulator.send state addr slot = none → ramulator.held state ≠ 0

/-- Every read takes the given number of ticks. -/
structure Takes (latency : Nat) : Prop where
  within : ramulator.FiresWithin latency
  notBefore : ramulator.FiresNotBefore latency

end Ramulator

namespace FixedLatency

variable {latency : Nat} {states loaded : Nat → List (Nat × Nat)}

/-- An entry that waits before a tick has fired, or waits after it with its
time reduced. -/
theorem fires_or_waits
    (clocked : (ramulator latency).Clocked states loaded)
    {time remaining slot : Nat}
    (waits : (remaining, slot) ∈ loaded time) :
    slot ∈ (ramulator latency).fires (loaded time) ∨
      1 < remaining ∧ (remaining - 1, slot) ∈ loaded (time + 1) := by
  by_cases last : 1 < remaining
  · refine Or.inr ⟨last, mem_of_accepts (clocked.accepts (time + 1)) ?_⟩
    rw [clocked.ticks]
    refine List.mem_map.mpr ⟨(remaining, slot), ?_, rfl⟩
    simpa [last] using waits
  · refine Or.inl (List.mem_map.mpr ⟨(remaining, slot), ?_, rfl⟩)
    simpa [last] using waits

/-- An entry fires before its time has run out. -/
theorem fires_of_remaining
    (clocked : (ramulator latency).Clocked states loaded)
    {remaining slot time : Nat}
    (waits : (remaining, slot) ∈ loaded time) :
    ∃ later < max 1 remaining,
      slot ∈ (ramulator latency).fires (loaded (time + later)) := by
  induction remaining generalizing time with
  | zero =>
      rcases fires_or_waits clocked waits with now | ⟨more, -⟩
      · exact ⟨0, Nat.lt_of_lt_of_le Nat.zero_lt_one (Nat.le_max_left _ _),
          now⟩
      · omega
  | succ remaining inductionHypothesis =>
      rcases fires_or_waits clocked waits with now | ⟨more, later⟩
      · exact ⟨0, Nat.lt_of_lt_of_le Nat.zero_lt_one (Nat.le_max_left _ _),
          now⟩
      · obtain ⟨rest, bound, fired⟩ := inductionHypothesis later
        refine ⟨rest + 1, by omega, ?_⟩
        rw [Nat.add_assoc, Nat.add_comm 1 rest] at fired
        exact fired

/-- An entry that was not there before has all its time left. -/
theorem remaining_of_accepts
    {first last : List (Nat × Nat)}
    (accepts : (ramulator latency).Accepts first last)
    {entry : Nat × Nat}
    (waits : entry ∈ last) :
    entry ∈ first ∨ entry.1 = latency := by
  induction accepts with
  | refl => exact Or.inl waits
  | send _ accepted inductionHypothesis =>
      obtain rfl := Option.some.inj accepted
      rcases List.mem_append.mp waits with old | new
      · exact inductionHypothesis old
      · exact Or.inr (congrArg Prod.fst (List.mem_singleton.mp new))

/-- A slot accepted after the start has the rest of its latency to wait. -/
def Fresh (latency time slot : Nat) (waiting : List (Nat × Nat)) : Prop :=
  ∀ entry ∈ waiting, entry.2 = slot → latency ≤ entry.1 + time

theorem Fresh.accepts
    {time slot : Nat}
    {first last : List (Nat × Nat)}
    (accepts : (ramulator latency).Accepts first last)
    (fresh : Fresh latency time slot first) :
    Fresh latency time slot last := by
  induction accepts with
  | refl => exact fresh
  | send _ accepted inductionHypothesis =>
      obtain rfl := Option.some.inj accepted
      intro entry member same
      rcases List.mem_append.mp member with old | new
      · exact inductionHypothesis entry old same
      · rw [List.mem_singleton.mp new]
        exact Nat.le_add_right latency time

theorem Fresh.tick
    {time slot : Nat}
    {waiting : List (Nat × Nat)}
    (fresh : Fresh latency time slot waiting) :
    Fresh latency (time + 1) slot (tick waiting).1 := by
  intro entry member same
  obtain ⟨old, oldMember, rfl⟩ := List.mem_map.mp member
  have before := fresh old (List.mem_of_mem_filter oldMember) same
  simp only
  omega

theorem Fresh.clocked
    (clocked : (ramulator latency).Clocked states loaded)
    {slot : Nat}
    (absent : slot ∉ held (states 0))
    (time : Nat) :
    Fresh latency time slot (loaded time) := by
  apply Fresh.accepts (clocked.accepts time)
  induction time with
  | zero =>
      intro entry member same
      rw [← same] at absent
      exact absurd (List.mem_map_of_mem member) absent
  | succ time inductionHypothesis =>
      rw [clocked.ticks]
      exact (Fresh.accepts (clocked.accepts time) inductionHypothesis).tick

/-- The memory takes its latency, but at least the tick that fires. -/
theorem takes (latency : Nat) :
    (ramulator latency).Takes (max 1 latency) where
  within := by
    intro states loaded clocked slot isHeld absent
    obtain ⟨entry, waits, rfl⟩ := List.mem_map.mp (Multiset.mem_coe.mp isHeld)
    rcases remaining_of_accepts (clocked.accepts 0) waits with old | new
    · exact absurd (List.mem_map_of_mem old) absent
    · obtain ⟨time, bound, fired⟩ := fires_of_remaining clocked waits
      rw [new] at bound
      rw [Nat.zero_add] at fired
      exact ⟨time, bound, fired⟩
  notBefore := by
    intro states loaded clocked slot absent time fired
    obtain ⟨entry, member, same⟩ := List.mem_map.mp fired
    obtain ⟨waits, last⟩ := List.mem_filter.mp member
    have fresh := Fresh.clocked clocked absent time entry waits same
    have spent : ¬ 1 < entry.1 := by simpa using last
    omega

theorem rejectsOnlyBusy (latency : Nat) :
    (ramulator latency).RejectsOnlyBusy := by
  intro state addr slot rejected
  exact absurd rejected (Option.some_ne_none _)

end FixedLatency

end PimGraphs
