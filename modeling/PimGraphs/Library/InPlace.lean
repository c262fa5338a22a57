import Mathlib.Data.List.Range
import Mathlib.Logic.Function.Basic

/-!
# Updating entries in place

Steps that write one entry each, with a value computed from all entries.  Run
in place, a step reads what the earlier steps wrote; run at once, every step
reads the entries as they were before.  With distinct targets the two agree
exactly when no step is disturbed by the results of the earlier ones.
-/

namespace InPlace

variable {ι α : Type*} [DecidableEq ι]
variable (target : Nat → ι) (body : Nat → (ι → α) → α)

/-- Every step reads the entries as the earlier steps left them. -/
def inPlace : Nat → (ι → α) → ι → α
  | 0, entries => entries
  | steps + 1, entries =>
      Function.update (inPlace steps entries) (target steps)
        (body steps (inPlace steps entries))

/-- Every step reads the entries as they were before the first. -/
def atOnce (steps : Nat) (entries : ι → α) : ι → α :=
  inPlace target (fun step _ => body step entries) steps entries

theorem atOnce_succ (steps : Nat) (entries : ι → α) :
    atOnce target body (steps + 1) entries =
      Function.update (atOnce target body steps entries) (target steps)
        (body steps entries) := rfl

variable {target body}

theorem inPlace_of_untouched
    {steps : Nat}
    {entry : ι}
    (untouched : ∀ step < steps, target step ≠ entry)
    (entries : ι → α) :
    inPlace target body steps entries entry = entries entry := by
  induction steps with
  | zero => rfl
  | succ steps inductionHypothesis =>
      rw [inPlace,
        Function.update_of_ne (untouched steps (Nat.lt_succ_self _)).symm,
        inductionHypothesis fun step before =>
          untouched step (Nat.lt_succ_of_lt before)]

section Distinct

variable (distinct : Function.Injective target)
include distinct

theorem atOnce_target
    {steps step : Nat}
    (before : step < steps)
    (entries : ι → α) :
    atOnce target body steps entries (target step) = body step entries := by
  induction steps with
  | zero => exact absurd before (Nat.not_lt_zero _)
  | succ steps inductionHypothesis =>
      rw [atOnce_succ]
      rcases Nat.lt_succ_iff_lt_or_eq.mp before with earlier | rfl
      · rw [Function.update_of_ne (distinct.ne earlier.ne),
          inductionHypothesis earlier]
      · exact Function.update_self _ _ _

/-- In place and at once agree when no step is disturbed by the results of the
steps before it. -/
theorem inPlace_eq_atOnce_iff
    (steps : Nat)
    (entries : ι → α) :
    inPlace target body steps entries = atOnce target body steps entries ↔
      ∀ step < steps,
        body step (atOnce target body step entries) = body step entries := by
  induction steps with
  | zero => exact iff_of_true rfl fun step before =>
      absurd before (Nat.not_lt_zero _)
  | succ steps inductionHypothesis =>
      have fresh : ∀ step < steps, target step ≠ target steps :=
        fun step before => distinct.ne before.ne
      rw [Nat.forall_lt_succ_right, ← inductionHypothesis]
      constructor
      · intro same
        have agree : inPlace target body steps entries =
            atOnce target body steps entries := by
          ext entry
          by_cases last : entry = target steps
          · rw [last, inPlace_of_untouched fresh, atOnce,
              inPlace_of_untouched fresh]
          · have here := congrFun same entry
            rwa [inPlace, atOnce_succ, Function.update_of_ne last,
              Function.update_of_ne last] at here
        have result := congrFun same (target steps)
        rw [inPlace, atOnce_succ, Function.update_self, Function.update_self,
          agree] at result
        exact ⟨agree, result⟩
      · rintro ⟨agree, result⟩
        rw [inPlace, atOnce_succ, agree, result]

end Distinct

/-- Targets that are consecutive numbers. -/
theorem atOnce_window
    (base : Nat)
    (body : Nat → (Nat → α) → α)
    (steps : Nat)
    (entries : Nat → α)
    (entry : Nat) :
    atOnce (base + ·) body steps entries entry =
      if base ≤ entry ∧ entry < base + steps then body (entry - base) entries
      else entries entry := by
  split
  case isTrue inside =>
    have same : base + (entry - base) = entry := by omega
    have written : atOnce (base + ·) body steps entries
        (base + (entry - base)) = body (entry - base) entries :=
      atOnce_target (fun _ _ => Nat.add_left_cancel) (by omega) entries
    rwa [same] at written
  case isFalse outside =>
    apply inPlace_of_untouched
    intro step before
    omega

/-- A loop whose every pass updates one entry of what a state shows runs in
place. -/
theorem read_foldl_range
    {σ : Type*}
    (read : σ → ι → α)
    (valid : σ → Prop)
    {next : σ → Nat → σ}
    (steps : Nat)
    (keeps : ∀ state, valid state → ∀ step < steps,
      valid (next state step) ∧
        read (next state step) =
          Function.update (read state) (target step) (body step (read state)))
    {state : σ}
    (start : valid state) :
    valid ((List.range steps).foldl next state) ∧
      read ((List.range steps).foldl next state) =
        inPlace target body steps (read state) := by
  induction steps with
  | zero => exact ⟨start, rfl⟩
  | succ steps inductionHypothesis =>
      obtain ⟨reached, shows⟩ := inductionHypothesis fun state isValid step
        before => keeps state isValid step (Nat.lt_succ_of_lt before)
      obtain ⟨stays, updated⟩ := keeps _ reached steps (Nat.lt_succ_self _)
      rw [List.range_succ, List.foldl_append, List.foldl_cons, List.foldl_nil]
      exact ⟨stays, by rw [updated, shows, inPlace]⟩

end InPlace
