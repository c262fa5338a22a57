import Mathlib.Algebra.GroupWithZero.Nat

/-!
# The fixed sizes of the hardware

Sixteen vaults of sixteen lanes each, and an accumulation unit of four stages,
the last of them a single vector.  The instances are what lets a literal name
a vault, a lane, a stage or a vector of a stage.
-/

namespace PimGraphs

instance neZero_sixteen : NeZero 16 := ⟨by decide⟩

instance neZero_four : NeZero 4 := ⟨by decide⟩

instance neZero_one : NeZero 1 := ⟨by decide⟩

end PimGraphs
