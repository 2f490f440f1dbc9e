import Mathlib.Algebra.Order.Field.Basic
import Mathlib.Algebra.Order.Group.MinMax
import InteriorPoint.Optimality
import InteriorPoint.Proofs.Norm

/-!
# `InteriorPoint.Proofs.Optimality`: two measures of the same residuals

The residuals of a point come in three groups. One error is the largest
entry of all, with the dual and the complementarity group scaled down
(`Residuals.scaled`), and another is the mean absolute value
(`Residuals.mean`). Since the divisors are at least one
(`one_le_errorScaling`), each of the two bounds the other up to a factor:
the number of entries one way, the larger divisor the other way.

The argument is the same for every group. A scaled maximum is at most the
maximum, which is at most the sum. Conversely the maximum is at most the
divisor times the error, and the sum at most the number of entries times
the maximum.
-/

set_option autoImplicit false

namespace InteriorPoint

/-- The residuals of a point in three groups of vectors. -/
structure Residuals (α : Type) where
  primal : List (List α)
  dual : List (List α)
  complementarity : List (List α)

namespace Residuals

section
variable {α : Type}

/-- All entries. -/
def entries (r : Residuals α) : List α :=
  r.primal.flatten ++ r.dual.flatten ++ r.complementarity.flatten

/-- The number of entries, and one if there are none. -/
def count (r : Residuals α) : Nat :=
  max r.entries.length 1

/-- There is something to divide by. -/
theorem one_le_count (r : Residuals α) : 1 ≤ r.count :=
  le_max_right _ _

variable [Scalar α]

/-- The residuals with the complementarity taken relative to a target. -/
def relative (r : Residuals α) (target : α) : Residuals α :=
  { r with complementarity := r.complementarity.map (Linear.shift (-target)) }

/-- The largest of the scaled residuals. -/
def scaled (r : Residuals α) (scaling : ErrorScaling α) : α :=
  Scalar.max
    (Scalar.max (Norm.max.ofVectors r.dual / scaling.dual) (Norm.max.ofVectors r.primal))
    (Norm.max.ofVectors r.complementarity / scaling.complementarity)

/-- The sum of the absolute values of all residuals. -/
def total (r : Residuals α) : α :=
  Norm.one.ofVectors r.primal + Norm.one.ofVectors r.dual
    + Norm.one.ofVectors r.complementarity

/-- The mean absolute value of the residuals. -/
def mean (r : Residuals α) : α :=
  r.total / (r.count : α)

/-- A shift changes no number of entries. -/
theorem count_relative (r : Residuals α) (target : α) : (r.relative target).count = r.count := by
  have hlength : ∀ v : List α,
      (Linear.shift (-target) v).length = v.length :=
    fun _ => List.length_map _
  simp only [count, entries, relative, List.length_append, List.length_flatten, List.map_map,
    Function.comp_def, hlength]

/-- The residuals without the undefined entries. -/
def defined (r : Residuals α) : Residuals α :=
  { primal := r.primal.map Norm.numbers, dual := r.dual.map Norm.numbers,
    complementarity := r.complementarity.map Norm.numbers }

variable [LawfulComparison α]

/-- The largest of the scaled residuals does not see undefined entries. -/
theorem scaled_defined (r : Residuals α) (scaling : ErrorScaling α) :
    r.defined.scaled scaling = r.scaled scaling := by
  simp only [scaled, defined, Norm.ofVectors_max_numbers]

/-- It is a number, whatever the residuals are. -/
theorem isNumber_scaled (r : Residuals α) (scaling : ErrorScaling α) :
    Scalar.IsNumber (r.scaled scaling) :=
  -- The primal residuals are not scaled, so one of the three operands is a number.
  Scalar.isNumber_max_left (Scalar.isNumber_max_right _ (Norm.isNumber_ofVectors_max _)) _

end

end Residuals

variable {K : Type} [Field K] [LinearOrder K] [ExactFunctions K]

namespace Residuals

/-- Relative to zero nothing changes. -/
theorem relative_zero (r : Residuals K) : r.relative 0 = r := by
  have hshift : ∀ v : List K, Linear.shift (-0) v = v := by
    intro v
    simp [Linear.shift]
  unfold relative
  rw [List.map_congr_left fun v _ => hshift v, List.map_id']

/-- The maxima are those of the field. -/
theorem scaled_eq (r : Residuals K) (scaling : ErrorScaling K) :
    r.scaled scaling = max
      (max (Norm.max.ofVectors r.dual / scaling.dual) (Norm.max.ofVectors r.primal))
      (Norm.max.ofVectors r.complementarity / scaling.complementarity) := by
  rw [scaled, Scalar.max_eq, Scalar.max_eq]

end Residuals

variable [IsStrictOrderedRing K]

/-! ### Divisors -/

/-- A divisor is one, or a mean over the threshold of which the threshold
is the least value. -/
theorem one_le_scalingFactor {threshold : K} (h : 1 ≤ threshold) (total : K) (count : Nat) :
    1 ≤ scalingFactor threshold total count := by
  unfold scalingFactor
  split
  · exact le_refl _
  · rw [Scalar.max_eq, one_le_div (zero_lt_one.trans_le h)]
    exact le_max_left _ _

/-- Both divisors of the optimality error are at least one. -/
theorem Iterate.one_le_errorScaling (iterate : Iterate K) {threshold : K} (h : 1 ≤ threshold) :
    1 ≤ (iterate.errorScaling threshold).dual
      ∧ 1 ≤ (iterate.errorScaling threshold).complementarity :=
  ⟨one_le_scalingFactor h _ _, one_le_scalingFactor h _ _⟩

/-! ### One error against another -/

namespace Residuals

/-- The mean times the number of entries is the sum. -/
theorem count_mul_mean (r : Residuals K) : (r.count : K) * r.mean = r.total :=
  mul_div_cancel₀ _ (Nat.cast_pos.2 r.one_le_count).ne'

section
variable (r : Residuals K) {scaling : ErrorScaling K} (hdual : 1 ≤ scaling.dual)
  (hcomplementarity : 1 ≤ scaling.complementarity)
include hdual hcomplementarity

/-- The largest residual is one of those that the mean is taken of. -/
theorem scaled_le_count_mul_mean : r.scaled scaling ≤ r.count * r.mean := by
  have hgroup : ∀ (vectors : List (List K)) {divisor : K}, 1 ≤ divisor →
      Norm.max.ofVectors vectors / divisor ≤ Norm.one.ofVectors vectors := fun _ _ hdivisor =>
    (div_le_self (Norm.ofVectors_max_nonneg _) hdivisor).trans (Norm.ofVectors_max_le_one _)
  have hprimal := Norm.ofVectors_max_le_one r.primal
  have hdual := hgroup r.dual hdual
  have hcomplementarity := hgroup r.complementarity hcomplementarity
  have hp := Norm.ofVectors_one_nonneg r.primal
  have hd := Norm.ofVectors_one_nonneg r.dual
  have hc := Norm.ofVectors_one_nonneg r.complementarity
  rw [count_mul_mean, scaled_eq]
  unfold total
  -- Each group is one of three that are summed, and none of the others is negative.
  exact max_le (max_le (by linarith) (by linarith)) (by linarith)

/-- Every group is bounded by the larger divisor times the error. -/
theorem max_le_mul_scaled :
    Norm.max.ofVectors r.primal
        ≤ max scaling.dual scaling.complementarity * r.scaled scaling
      ∧ Norm.max.ofVectors r.dual
        ≤ max scaling.dual scaling.complementarity * r.scaled scaling
      ∧ Norm.max.ofVectors r.complementarity
        ≤ max scaling.dual scaling.complementarity * r.scaled scaling := by
  obtain ⟨⟨hd, hp⟩, hc⟩ : (Norm.max.ofVectors r.dual / scaling.dual ≤ r.scaled scaling
      ∧ Norm.max.ofVectors r.primal ≤ r.scaled scaling)
      ∧ Norm.max.ofVectors r.complementarity / scaling.complementarity ≤ r.scaled scaling := by
    rw [← max_le_iff, ← max_le_iff, ← scaled_eq]
  have herror : 0 ≤ r.scaled scaling := (Norm.ofVectors_max_nonneg r.primal).trans hp
  -- A divisor is at most the larger one, and the larger one is at least one.
  have hgroup : ∀ {norm divisor : K}, 1 ≤ divisor →
      divisor ≤ max scaling.dual scaling.complementarity → norm / divisor ≤ r.scaled scaling →
        norm ≤ max scaling.dual scaling.complementarity * r.scaled scaling := by
    intro norm divisor hone hle hquotient
    rw [div_le_iff₀ (zero_lt_one.trans_le hone), mul_comm] at hquotient
    exact hquotient.trans (mul_le_mul_of_nonneg_right hle herror)
  refine ⟨?_, hgroup hdual (le_max_left _ _) hd, hgroup hcomplementarity (le_max_right _ _) hc⟩
  exact hgroup (le_refl 1) (hdual.trans (le_max_left _ _)) (by rwa [div_one])

/-- The mean is at most the largest entry, hence at most the error times
the larger divisor. -/
theorem mean_le_mul_scaled :
    r.mean ≤ max scaling.dual scaling.complementarity * r.scaled scaling := by
  obtain ⟨hp, hd, hc⟩ := r.max_le_mul_scaled hdual hcomplementarity
  set bound := max scaling.dual scaling.complementarity * r.scaled scaling
  have hbound : 0 ≤ bound := (Norm.ofVectors_max_nonneg r.primal).trans hp
  -- A sum of absolute values is at most their number times a bound on them.
  have hgroup : ∀ {vectors : List (List K)}, Norm.max.ofVectors vectors ≤ bound →
      Norm.one.ofVectors vectors ≤ vectors.flatten.length * bound := fun hle =>
    (Norm.ofVectors_one_le _).trans (mul_le_mul_of_nonneg_left hle (Nat.cast_nonneg _))
  have htotal : r.total ≤ r.entries.length * bound := by
    have hp := hgroup hp
    have hd := hgroup hd
    have hc := hgroup hc
    simp only [total, entries, List.length_append, Nat.cast_add]
    linarith
  -- Without entries the sum is zero, and the count is still one.
  have hcount : (r.entries.length : K) ≤ r.count := Nat.cast_le.2 (le_max_left _ _)
  rw [mean, div_le_iff₀ (Nat.cast_pos.2 r.one_le_count), mul_comm]
  exact htotal.trans (mul_le_mul_of_nonneg_right hcount hbound)

/-- The error vanishes only where every residual does. -/
theorem scaled_eq_zero_iff : r.scaled scaling = 0 ↔ ∀ entry ∈ r.entries, entry = 0 := by
  have hentries : (∀ entry ∈ r.entries, entry = 0)
      ↔ Norm.max.ofVectors r.primal = (0 : K) ∧ Norm.max.ofVectors r.dual = (0 : K)
        ∧ Norm.max.ofVectors r.complementarity = (0 : K) := by
    rw [Norm.ofVectors_max_eq_zero_iff, Norm.ofVectors_max_eq_zero_iff,
      Norm.ofVectors_max_eq_zero_iff]
    simp only [entries, List.forall_mem_append, and_assoc]
  rw [hentries]
  constructor
  · intro hzero
    obtain ⟨hp, hd, hc⟩ := r.max_le_mul_scaled hdual hcomplementarity
    rw [hzero, mul_zero] at hp hd hc
    exact ⟨hp.antisymm (Norm.ofVectors_max_nonneg _), hd.antisymm (Norm.ofVectors_max_nonneg _),
      hc.antisymm (Norm.ofVectors_max_nonneg _)⟩
  · -- Quotients of zero are zero, and so is their maximum.
    rintro ⟨hp, hd, hc⟩
    rw [scaled_eq, hp, hd, hc, zero_div, zero_div, max_self, max_self]

end

/-- Taking the complementarity relative to a target changes the error by
at most the scaled target. -/
theorem abs_scaled_relative_sub_le (r : Residuals K) {scaling : ErrorScaling K}
    (hcomplementarity : 1 ≤ scaling.complementarity) {target : K} (htarget : 0 ≤ target) :
    |(r.relative target).scaled scaling - r.scaled scaling|
      ≤ target / scaling.complementarity := by
  have hpos : 0 < scaling.complementarity := zero_lt_one.trans_le hcomplementarity
  have hnorm : |Norm.max.ofVectors (r.relative target).complementarity
      - Norm.max.ofVectors r.complementarity| ≤ target := by
    refine (Norm.abs_ofVectors_max_shift_sub_le _ _).trans_eq ?_
    rw [abs_neg, abs_of_nonneg htarget]
  calc |(r.relative target).scaled scaling - r.scaled scaling|
      ≤ |Norm.max.ofVectors (r.relative target).complementarity / scaling.complementarity
          - Norm.max.ofVectors r.complementarity / scaling.complementarity| := by
        rw [scaled_eq, scaled_eq]
        -- The other groups are the same on both sides.
        refine (abs_max_sub_max_le_max _ _ _ _).trans (max_le ?_ (le_refl _))
        exact (abs_eq_zero.2 (sub_eq_zero.2 rfl)).le.trans (abs_nonneg _)
    _ = |Norm.max.ofVectors (r.relative target).complementarity
          - Norm.max.ofVectors r.complementarity| / scaling.complementarity := by
        rw [← sub_div, abs_div, abs_of_pos hpos]
    _ ≤ target / scaling.complementarity := div_le_div_of_nonneg_right hnorm hpos.le

end Residuals

end InteriorPoint
