import Mathlib.Data.List.Infix

/-!
# Waiting in a queue that is served every round

Items arrive at the back of a queue and are taken from its front, in rounds.
When every round takes something from a queue that is not empty, an item waits
at most one round for each item in front of it and one for itself.
-/

namespace Waiting

variable {α : Type*}

/-- A queue in front of each round, with all that has been taken from it. -/
structure Served (queue taken : Nat → List α) : Prop where
  round : ∀ time, ∃ now arrived : List α,
    queue time ++ arrived = now ++ queue (time + 1) ∧
      taken (time + 1) = taken time ++ now ∧
        (queue time ≠ [] → now ≠ [])

variable {queue taken : Nat → List α}

/-- The first items of a queue are taken within as many rounds, in order. -/
theorem Served.take_isPrefix
    (served : Served queue taken)
    (time count : Nat) :
    taken time ++ (queue time).take count <+: taken (time + count) := by
  induction count generalizing time with
  | zero =>
      rw [List.take_zero, List.append_nil]
      exact List.prefix_rfl
  | succ count inductionHypothesis =>
      obtain ⟨now, arrived, moved, grown, some⟩ := served.round time
      have later := inductionHypothesis (time + 1)
      rw [Nat.add_right_comm, Nat.add_assoc, grown, List.append_assoc] at later
      apply List.IsPrefix.trans _ later
      apply (List.prefix_append_right_inj _).mpr
      cases waiting : queue time with
      | nil =>
          rw [List.take_nil]
          exact List.nil_prefix
      | cons first rest =>
          have positive : 0 < now.length :=
            List.length_pos_iff.mpr (some (by simp [waiting]))
          have enough : now ++ (queue (time + 1)).take count =
              (queue time ++ arrived).take (now.length + count) := by
            rw [moved, List.take_length_add_append]
          rw [enough, ← waiting]
          calc (queue time).take (count + 1)
            _ <+: (queue time ++ arrived).take (count + 1) :=
              (List.prefix_append _ _).take _
            _ <+: (queue time ++ arrived).take (now.length + count) :=
              List.take_prefix_take_left (by omega)

end Waiting
