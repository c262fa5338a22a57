import Mathlib.Order.Monotone.Basic
import Mathlib.Order.Lattice

/-!
# Requests served with bounded latency

Requests are issued and completed in rounds.  `issued time` and
`completed time` count them before the round `time`; nothing else is known of
the server.  From bounds on its latency, and from a rule that says when
another request is issued, follows how long a given number of requests takes.
-/

namespace Latency

/-- Whatever is issued by the end of a round has completed `latency` rounds
after the beginning of that round. -/
structure Prompt (latency : Nat) (issued completed : Nat → Nat) : Prop where
  issued_mono : Monotone issued
  completed_mono : Monotone completed
  completed_le : ∀ time, completed time ≤ issued time
  served : ∀ time, issued (time + 1) ≤ completed (time + latency)

/-- Nothing completes earlier than `latency` rounds after the beginning of the
round it is issued in. -/
structure Slow (latency : Nat) (issued completed : Nat → Nat) : Prop where
  none_early : ∀ time < latency, completed time = 0
  held : ∀ time, completed (time + latency) ≤ issued (time + 1)

variable {latency total : Nat} {issued completed : Nat → Nat}

namespace Prompt

/-- A server that issues whenever nothing is under way has issued another
request every `latency` rounds. -/
theorem issued_of_busy
    (isPrompt : Prompt latency issued completed)
    (busy : ∀ time, issued time < total → completed time = issued time →
      issued time < issued (time + 1))
    {count : Nat}
    (within : count < total) :
    count < issued (count * latency + 1) := by
  induction count with
  | zero =>
      have first := busy 0
      have start := isPrompt.completed_le 0
      have next := isPrompt.issued_mono (Nat.zero_le (0 + 1))
      rw [Nat.zero_mul]
      omega
  | succ count inductionHypothesis =>
      have earlier := inductionHypothesis (Nat.lt_of_succ_lt within)
      have served := isPrompt.served (count * latency)
      have before := isPrompt.completed_le (count * latency + latency)
      have next := busy (count * latency + latency)
      have grows := isPrompt.issued_mono
        (Nat.le_add_right (count * latency + latency) 1)
      rw [Nat.succ_mul]
      omega

/-- So it serves `total` requests in `total * latency` rounds. -/
theorem completed_of_busy
    (isPrompt : Prompt latency issued completed)
    (busy : ∀ time, issued time < total → completed time = issued time →
      issued time < issued (time + 1)) :
    total ≤ completed (total * latency) := by
  cases total with
  | zero => exact Nat.zero_le _
  | succ count =>
      have last := isPrompt.issued_of_busy busy (Nat.lt_succ_self count)
      have served := isPrompt.served (count * latency)
      rw [Nat.succ_mul]
      omega

/-- A server that issues `width` requests a round, as long as there are so
many, has issued them all when the rounds cover them. -/
theorem issued_of_width
    {width : Nat}
    (busy : ∀ time, min total (issued time + width) ≤ issued (time + 1))
    (time : Nat) :
    min total (time * width) ≤ issued time := by
  induction time with
  | zero => simp
  | succ time inductionHypothesis =>
      have next := busy time
      rw [Nat.succ_mul]
      omega

/-- So it serves them `latency` rounds after the last round it needs. -/
theorem completed_of_width
    (isPrompt : Prompt latency issued completed)
    {width : Nat}
    (busy : ∀ time, min total (issued time + width) ≤ issued (time + 1))
    {time : Nat}
    (covered : total ≤ (time + 1) * width) :
    total ≤ completed (time + latency) := by
  have all := issued_of_width busy (time + 1)
  have served := isPrompt.served time
  omega

end Prompt

/-- A slow server that serves one request at a time takes `latency` rounds for
each of them. -/
theorem Slow.completed_mul_le
    (isSlow : Slow latency issued completed)
    (serial : ∀ time, issued (time + 1) ≤ completed time + 1)
    (time : Nat) :
    completed time * latency ≤ time := by
  induction time using Nat.strong_induction_on with
  | _ time inductionHypothesis =>
      rcases Nat.lt_or_ge time latency with early | late
      · rw [isSlow.none_early time early, Nat.zero_mul]
        exact Nat.zero_le time
      · obtain ⟨earlier, rfl⟩ := Nat.exists_eq_add_of_le' late
        rcases Nat.eq_zero_or_pos latency with instant | positive
        · rw [instant, Nat.mul_zero]
          exact Nat.zero_le _
        · have before := inductionHypothesis earlier (by omega)
          have oneMore := (isSlow.held earlier).trans (serial earlier)
          calc
            completed (earlier + latency) * latency
              ≤ (completed earlier + 1) * latency :=
                Nat.mul_le_mul_right latency oneMore
            _ = completed earlier * latency + latency :=
                Nat.succ_mul _ _
            _ ≤ earlier + latency := Nat.add_le_add_right before latency

/-- Requests issued at most `width` a round. -/
theorem issued_le_of_width
    {width : Nat}
    (none_before : issued 0 = 0)
    (narrow : ∀ time, issued (time + 1) ≤ issued time + width)
    (time : Nat) :
    issued time ≤ time * width := by
  induction time with
  | zero => exact none_before.trans_le (Nat.zero_le _)
  | succ time inductionHypothesis =>
      have next := narrow time
      rw [Nat.succ_mul]
      omega

/-- A slow server that issues at most `width` requests a round needs the
rounds that cover them, and the latency of the last one. -/
theorem Slow.rounds_of_width
    (isSlow : Slow latency issued completed)
    {width : Nat}
    (none_before : issued 0 = 0)
    (narrow : ∀ time, issued (time + 1) ≤ issued time + width)
    {time : Nat}
    (someCompleted : 0 < completed time) :
    ∃ rounds, time = rounds + latency ∧
      completed time ≤ (rounds + 1) * width := by
  rcases Nat.lt_or_ge time latency with early | late
  · have none := isSlow.none_early time early
    omega
  · obtain ⟨rounds, rfl⟩ := Nat.exists_eq_add_of_le' late
    exact ⟨rounds, rfl, (isSlow.held rounds).trans
      (issued_le_of_width none_before narrow (rounds + 1))⟩

end Latency
