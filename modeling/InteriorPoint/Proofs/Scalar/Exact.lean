import Mathlib.Algebra.BigOperators.Group.List.Basic
import Mathlib.Algebra.Order.Field.Basic
import InteriorPoint.Proofs.Scalar.Comparison

/-!
# `InteriorPoint.Proofs.Scalar.Exact`: quantities in exact arithmetic

The formulas of this library can be read in every ordered field. What a
field lacks is a square root and a logarithm, and these are left open
(`ExactFunctions`). They may be any functions; a statement about them
says what it needs of them. The two constants are those of binary64.

In a field every value is a number and there is one zero, so the
operations that `Scalar` writes out for the sake of undefined values and
signed zeros are the plain ones.
-/

set_option autoImplicit false

namespace InteriorPoint

/-- The functions that are not operations of an ordered field. -/
class ExactFunctions (K : Type) where
  /-- Square root. -/
  sqrt : K → K
  /-- Natural logarithm. -/
  log : K → K

namespace Scalar

variable {K : Type} [Field K] [LinearOrder K] [ExactFunctions K]

/-- Exact arithmetic. `epsilon` is `2⁻⁵²` and `tiny` is `2⁻¹⁰²²`. -/
instance exact : Scalar K where
  toZero := inferInstance
  toOne := inferInstance
  toAdd := inferInstance
  toSub := inferInstance
  toMul := inferInstance
  toDiv := inferInstance
  toNeg := inferInstance
  toNatCast := inferInstance
  toLT := inferInstance
  toLE := inferInstance
  decidableEq := inferInstance
  decidableLT := inferInstance
  decidableLE := inferInstance
  sqrt := ExactFunctions.sqrt
  log := ExactFunctions.log
  isFinite _ := true
  epsilon := (2 : K)⁻¹ ^ 52
  tiny := (2 : K)⁻¹ ^ 1022

/-- An ordered field compares lawfully. -/
instance [IsStrictOrderedRing K] : LawfulComparison K where
  lt_iff_le_not_ge _ _ := lt_iff_le_not_ge
  le_trans := le_trans
  isNumber_left _ := le_refl _
  isNumber_right _ := le_refl _
  le_total _ _ := le_total _ _
  tiny_pos := pow_pos (inv_pos.2 two_pos) _

/-- There is one zero. -/
theorem isZero_iff {a : K} : IsZero a ↔ a = 0 :=
  le_antisymm_iff.symm

/-- So there is no sign to drop. -/
theorem unsigned_eq (a : K) : unsigned a = a := by
  unfold unsigned
  split
  · rename_i hzero
    exact (isZero_iff.1 hzero).symm
  · rfl

/-- The running sum is the sum of the list. -/
theorem sum_eq (entries : List K) : sum entries = entries.sum :=
  List.sum_eq_foldl.symm

/-- The maximum is that of the order. -/
theorem max_eq (a b : K) : max a b = Max.max a b := by
  have hnumber : ∀ c : K, IsNumber c := le_refl
  unfold max
  -- The two tests for undefined values fail.
  rw [if_neg (not_not_intro (hnumber a)), if_neg (not_not_intro (hnumber b))]
  split
  · rename_i h
    exact (max_eq_right h.le).symm
  · rename_i h
    exact (max_eq_left (not_lt.1 h)).symm

/-- The minimum is that of the order. -/
theorem min_eq (a b : K) : min a b = Min.min a b := by
  have hnumber : ∀ c : K, IsNumber c := le_refl
  unfold min
  -- As above, neither operand is undefined.
  rw [if_neg (not_not_intro (hnumber a)), if_neg (not_not_intro (hnumber b))]
  split
  · rename_i h
    exact (min_eq_right h.le).symm
  · rename_i h
    exact (min_eq_left (not_lt.1 h)).symm

/-- The absolute value is that of the field. -/
theorem abs_eq [IsStrictOrderedRing K] (a : K) : abs a = |a| := by
  unfold abs
  split
  · rename_i h
    exact (abs_of_neg h).symm
  · rename_i h
    rw [unsigned_eq, abs_of_nonneg (not_lt.1 h)]

end Scalar

end InteriorPoint
