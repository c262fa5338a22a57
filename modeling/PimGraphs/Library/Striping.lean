import Mathlib.Algebra.BigOperators.Ring.Finset
import Mathlib.Data.Int.CardIntervalMod

/-!
# Striping

The numbers from zero up are cut into blocks of one size, and the blocks are
dealt to a number of bins in turn.  The last block may be short.  No bin gets
more than one block ahead of another, and all get the same when the blocks
come out even.
-/

namespace Striping

section Blocks

variable (holds : Nat → Prop) [DecidablePred holds] {size : Nat}

/-- A property of the block of a number is counted block by block. -/
theorem count_div
    (positive : 0 < size)
    (total : Nat) :
    Nat.count (fun number => holds (number / size)) total =
      size * Nat.count holds (total / size) +
        if holds (total / size) then total % size else 0 := by
  induction total with
  | zero =>
      rw [Nat.zero_div, Nat.zero_mod, Nat.count_zero, Nat.count_zero, ite_self,
        Nat.mul_zero]
  | succ total inductionHypothesis =>
      have split := Nat.div_add_mod total size
      have below := Nat.mod_lt total positive
      rw [Nat.count_succ, inductionHypothesis]
      by_cases ends : total % size + 1 = size
      · -- The next number starts a block.
        have next : total + 1 = size * (total / size + 1) := by
          rw [Nat.mul_add, Nat.mul_one]
          omega
        have block : (total + 1) / size = total / size + 1 := by
          rw [next, Nat.mul_div_cancel_left _ positive]
        have first : (total + 1) % size = 0 := by
          rw [next, Nat.mul_mod_right]
        rw [block, first, ite_self, Nat.count_succ]
        split_ifs
        · rw [Nat.mul_add]
          omega
        · rfl
      · have next : total + 1 = total % size + 1 + size * (total / size) := by
          omega
        have inside : total % size + 1 < size := by omega
        have block : (total + 1) / size = total / size := by
          rw [next, Nat.add_mul_div_left _ _ positive,
            Nat.div_eq_of_lt inside, Nat.zero_add]
        have later : (total + 1) % size = total % size + 1 := by
          rw [next, Nat.add_mul_mod_self_left, Nat.mod_eq_of_lt inside]
        rw [block, later]
        split_ifs
        · omega
        · rfl

end Blocks

/-- How many blocks a bin is dealt. -/
theorem count_mod
    {bins target : Nat}
    (isBin : target < bins)
    (blocks : Nat) :
    Nat.count (fun block => block % bins = target) blocks =
      blocks / bins + if target < blocks % bins then 1 else 0 := by
  have counted := Nat.count_modEq_card blocks (r := bins) (by omega) target
  rw [Nat.mod_eq_of_lt isBin] at counted
  rw [← counted]
  congr 1
  funext block
  rw [Nat.ModEq, Nat.mod_eq_of_lt isBin]

variable (size bins : Nat)

/-- The bin of a number. -/
def bin (number : Nat) : Nat := number / size % bins

/-- How many of the first numbers fall into a bin. -/
def load (total target : Nat) : Nat :=
  Nat.count (fun number => bin size bins number = target) total

variable {size bins} {total target other : Nat}

/-- A bin is loaded with its whole blocks, and with the short block if it is
dealt that. -/
theorem load_eq
    (positive : 0 < size)
    (isBin : target < bins) :
    load size bins total target =
      size * (total / size / bins +
          if target < total / size % bins then 1 else 0) +
        if total / size % bins = target then total % size else 0 := by
  rw [load, ← count_mod isBin]
  apply count_div (fun block => block % bins = target) positive

theorem le_load
    (positive : 0 < size)
    (isBin : target < bins) :
    size * (total / size / bins) ≤ load size bins total target := by
  rw [load_eq positive isBin, Nat.mul_add]
  omega

/-- Of the extra whole block and the short one a bin is dealt at most one. -/
theorem load_le
    (positive : 0 < size)
    (isBin : target < bins) :
    load size bins total target ≤ size * (total / size / bins) + size := by
  have short := Nat.mod_lt total positive
  rw [load_eq positive isBin, Nat.mul_add]
  split_ifs
  · omega
  · omega
  · omega
  · omega

/-- No bin gets more than a block ahead of another. -/
theorem load_le_load_add
    (positive : 0 < size)
    (isBin : target < bins)
    (isOther : other < bins) :
    load size bins total target ≤ load size bins total other + size := by
  have most : load size bins total target ≤
      size * (total / size / bins) + size := load_le positive isBin
  have least : size * (total / size / bins) ≤ load size bins total other :=
    le_load positive isOther
  omega

/-- When the blocks come out even, every bin gets its share. -/
theorem load_of_dvd
    (positive : 0 < size)
    (isBin : target < bins)
    (even : bins * size ∣ total) :
    load size bins total target = total / bins := by
  obtain ⟨rounds, rfl⟩ := even
  have some : 0 < bins := by omega
  have whole : bins * size * rounds = size * (bins * rounds) := by ring
  have share : bins * size * rounds / bins = size * rounds := by
    rw [Nat.mul_assoc, Nat.mul_div_cancel_left _ some]
  rw [load_eq positive isBin, share, whole,
    Nat.mul_div_cancel_left _ positive, Nat.mul_div_cancel_left _ some,
    Nat.mul_mod_right, Nat.mul_mod_right, ite_self,
    if_neg (Nat.not_lt_zero target)]
  rfl

/-- Every number falls into one bin. -/
theorem sum_load (some : 0 < bins) (total : Nat) :
    ∑ target ∈ Finset.range bins, load size bins total target = total := by
  induction total with
  | zero =>
      apply Finset.sum_eq_zero
      intro target _
      apply Nat.count_zero
  | succ total inductionHypothesis =>
      have isBin : bin size bins total < bins := Nat.mod_lt _ some
      have next (target : Nat) : load size bins (total + 1) target =
          load size bins total target +
            if bin size bins total = target then 1 else 0 :=
        Nat.count_succ _ _
      simp only [next, Finset.sum_add_distrib, inductionHypothesis,
        Finset.sum_ite_eq, Finset.mem_range, isBin, if_true]

end Striping
