import Mathlib.Logic.Function.Iterate

/-!
# While loops

A loop tests a state and runs its body while the test succeeds.  With fuel the
loop is a total function that gives no state when the fuel runs out; a loop
terminates when some amount of fuel is enough.
-/

namespace WhileLoop

variable {σ : Type*} (test : σ → Bool) (body : σ → σ)

/-- Run a loop with fuel for a number of tests. -/
def run : Nat → σ → Option σ
  | 0, _ => none
  | fuel + 1, state =>
      if test state then run fuel (body state) else some state

variable {test body} {state last : σ} {fuel : Nat}

theorem run_of_test (continues : test state = true) (fuel : Nat) :
    run test body (fuel + 1) state = run test body fuel (body state) :=
  if_pos continues

theorem run_of_not_test (stops : test state = false) (fuel : Nat) :
    run test body (fuel + 1) state = some state :=
  if_neg (Bool.eq_false_iff.mp stops)

/-- Passes that are known to happen can be taken first. -/
theorem run_add
    {passes : Nat}
    (continues : ∀ earlier < passes, test (body^[earlier] state) = true)
    (fuel : Nat) :
    run test body (fuel + passes) state =
      run test body fuel (body^[passes] state) := by
  induction passes generalizing state with
  | zero => rfl
  | succ passes inductionHypothesis =>
      have first : test state = true := continues 0 (Nat.succ_pos _)
      rw [← Nat.add_assoc, run_of_test first, inductionHypothesis]
      · rfl
      · intro earlier before
        exact continues (earlier + 1) (Nat.succ_lt_succ before)

/-- More fuel than a loop needs makes no difference. -/
theorem run_of_le
    {more : Nat}
    (ends : run test body fuel state = some last)
    (enough : fuel ≤ more) :
    run test body more state = some last := by
  induction fuel generalizing state more with
  | zero => cases ends
  | succ fuel inductionHypothesis =>
      obtain ⟨rest, rfl⟩ := Nat.exists_eq_add_of_le' enough
      rw [← Nat.add_assoc]
      cases continues : test state with
      | true =>
          rw [run_of_test continues] at ends ⊢
          apply inductionHypothesis ends
          omega
      | false =>
          rw [run_of_not_test continues] at ends ⊢
          exact ends

/-- A loop that ends does so from every state it passes. -/
theorem exists_run_of_run
    {passes : Nat}
    (ends : run test body fuel state = some last)
    (continues : ∀ earlier < passes, test (body^[earlier] state) = true) :
    ∃ rest, run test body rest (body^[passes] state) = some last := by
  induction passes generalizing state fuel with
  | zero => exact ⟨fuel, ends⟩
  | succ passes inductionHypothesis =>
      cases fuel with
      | zero => cases ends
      | succ fuel =>
          have first : test state = true := continues 0 (Nat.succ_pos _)
          rw [run_of_test first] at ends
          exact inductionHypothesis ends fun earlier before =>
            continues (earlier + 1) (Nat.succ_lt_succ before)

/-- What every pass keeps holds at the end, where the test fails. -/
theorem invariant_of_run
    {invariant : σ → Prop}
    (kept : ∀ state, invariant state → test state = true →
      invariant (body state))
    (initially : invariant state)
    (ends : run test body fuel state = some last) :
    invariant last ∧ test last = false := by
  induction fuel generalizing state with
  | zero => cases ends
  | succ fuel inductionHypothesis =>
      cases continues : test state with
      | true =>
          rw [run_of_test continues] at ends
          exact inductionHypothesis (kept state initially continues) ends
      | false =>
          rw [run_of_not_test continues] at ends
          obtain rfl := Option.some.inj ends
          exact ⟨initially, continues⟩

end WhileLoop
