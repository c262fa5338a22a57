import Mathlib.Algebra.BigOperators.Intervals

/-!
# Balanced tree sums

The sum of `2 ^ levels` values taken as a complete binary tree: each node adds
the sums of its two halves.  A circuit that adds neighbours and so halves the
number of values level by level computes the same tree, also where addition is
not associative; in a commutative monoid the tree is the plain sum.
-/

namespace TreeSum

variable {α : Type*}

/-- Sum of the first `2 ^ levels` values as a complete binary tree. -/
def treeSum [Add α] : (levels : Nat) → (Nat → α) → α
  | 0, values => values 0
  | levels + 1, values =>
      treeSum levels values +
        treeSum levels fun index => values (2 ^ levels + index)

/-- The sums of neighbouring values. -/
def pairs [Add α] (values : Nat → α) : Nat → α :=
  fun pair => values (2 * pair) + values (2 * pair + 1)

/-- Adding neighbours takes the lowest level off the tree. -/
theorem treeSum_succ_eq_pairs [Add α] (levels : Nat) (values : Nat → α) :
    treeSum (levels + 1) values = treeSum levels (pairs values) := by
  induction levels generalizing values with
  | zero => rfl
  | succ levels inductionHypothesis =>
      rw [treeSum, inductionHypothesis, inductionHypothesis]
      show _ = treeSum levels (pairs values) + treeSum levels _
      congr 2
      funext pair
      have even : 2 ^ (levels + 1) + 2 * pair = 2 * (2 ^ levels + pair) := by
        rw [pow_succ]
        omega
      simp only [pairs, ← even]
      rfl

/-- In a commutative monoid the shape of the tree does not matter. -/
theorem treeSum_eq_sum
    [AddCommMonoid α]
    (levels : Nat)
    (values : Nat → α) :
    treeSum levels values = ∑ index ∈ Finset.range (2 ^ levels),
      values index := by
  induction levels generalizing values with
  | zero => simp [treeSum]
  | succ levels inductionHypothesis =>
      rw [treeSum, inductionHypothesis, inductionHypothesis, pow_succ,
        mul_two, Finset.sum_range_add]

end TreeSum
