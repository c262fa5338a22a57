import Mathlib.Logic.Relation
import Mathlib.Tactic.Linarith

/-!
# Termination by a potential

A step lowers a potential, or it leaves all of a state alone that matters for
what comes next.  So no step raises the potential, and a stretch of steps that
does not lower it leaves what matters alone throughout.  A system that lowers
its potential in every window of rounds it begins at work stops working.
-/

namespace Potential

variable {State : Type*} {potential : State → Nat}
variable {idles : State → State → Prop}

/-- The potential is lower, or nothing that matters has changed. -/
inductive Descends
    (potential : State → Nat)
    (idles : State → State → Prop)
    (before after : State) : Prop
  | lower : potential after < potential before →
      Descends potential idles before after
  | idle : potential after = potential before → idles before after →
      Descends potential idles before after

namespace Descends

variable {first middle last : State}

theorem le (descends : Descends potential idles first last) :
    potential last ≤ potential first := by
  cases descends with
  | lower less => exact less.le
  | idle same _ => exact same.le

/-- Where the potential is not lower, nothing that matters has changed. -/
theorem idles_of_le
    (descends : Descends potential idles first last)
    (notLower : potential first ≤ potential last) :
    idles first last := by
  cases descends with
  | lower less => exact absurd notLower (Nat.not_le.mpr less)
  | idle _ idle => exact idle

theorem refl
    (reflexive : ∀ state, idles state state)
    (state : State) :
    Descends potential idles state state :=
  .idle rfl (reflexive state)

theorem trans
    (transitive : ∀ {first middle last}, idles first middle →
      idles middle last → idles first last)
    (earlier : Descends potential idles first middle)
    (later : Descends potential idles middle last) :
    Descends potential idles first last := by
  cases earlier with
  | lower less => exact .lower (later.le.trans_lt less)
  | idle same idle =>
      cases later with
      | lower less => exact .lower (less.trans_eq same)
      | idle sameLater idleLater =>
          exact .idle (sameLater.trans same) (transitive idle idleLater)

end Descends

/-- Some round does no work, at the latest after one window for each unit of
the potential. -/
theorem exists_stopped
    (potential : Nat → Nat)
    (working : Nat → Prop)
    (window : Nat)
    (lowers : ∀ time, working time →
      potential (time + window) < potential time) :
    ∃ time ≤ potential 0 * window, ¬ working time := by
  suffices bounded : ∀ (count time : Nat), potential time ≤ count →
      ∃ later ≤ time + count * window, ¬ working later by
    obtain ⟨time, bound, stopped⟩ := bounded (potential 0) 0 le_rfl
    exact ⟨time, by omega, stopped⟩
  intro count
  induction count with
  | zero =>
      intro time none
      refine ⟨time, Nat.le_add_right _ _, fun works => ?_⟩
      exact Nat.not_lt_zero _ ((lowers time works).trans_le none)
  | succ count inductionHypothesis =>
      intro time enough
      by_cases works : working time
      · obtain ⟨later, bound, stopped⟩ := inductionHypothesis (time + window)
          (Nat.le_of_lt_succ ((lowers time works).trans_le enough))
        refine ⟨later, bound.trans ?_, stopped⟩
        rw [Nat.succ_mul]
        omega
      · exact ⟨time, Nat.le_add_right _ _, works⟩

end Potential
