import Mathlib.Analysis.SpecialFunctions.Log.Basic
import Mathlib.Analysis.Real.Sqrt
import InteriorPoint.Proofs.Scalar.Exact

/-!
# `InteriorPoint.Proofs.Scalar.Real`: the real numbers

The real numbers with their own square root and logarithm are exact
arithmetic, and their logarithm lies below its tangents.
-/

set_option autoImplicit false

namespace InteriorPoint

/-- The square root and the logarithm of the real numbers. -/
noncomputable instance : ExactFunctions ℝ where
  sqrt := Real.sqrt
  log := Real.log

/-- The real logarithm lies below its tangents. -/
theorem Scalar.log_sub_log_le {u v : ℝ} (hu : 0 < u) (hv : 0 < v) :
    (Scalar.log v : ℝ) - Scalar.log u ≤ (v - u) / u := by
  have hquotient := Real.log_le_sub_one_of_pos (div_pos hv hu)
  -- The difference of the logarithms is that of the quotient.
  rw [Real.log_div hv.ne' hu.ne'] at hquotient
  have hratio : (v - u) / u = v / u - 1 := by rw [sub_div, div_self hu.ne']
  rw [hratio]
  exact hquotient

end InteriorPoint
