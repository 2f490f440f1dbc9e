import InteriorPoint.Proofs.Centrality
import InteriorPoint.Proofs.Quantity.Residuals
import InteriorPoint.Proofs.Quantity.Slacks

/-!
# `InteriorPoint.Proofs.Quantity.Centering`: products, their mean and their centrality

The complementarity products of a family are stored as a vector, and the
centrality is computed from these vectors. The mean complementarity is not.
It adds up dot products of the slacks and the multipliers, and divides by
the number of bounds that the problem has.

In exact arithmetic both speak of the same entries. A dot product is the
sum of the stored products of its family, and there are as many products as
bounds (`Dimensions.length_flatten`). So in a sound setting the mean
complementarity is the mean of all stored products
(`Sound.exists_products`).
-/

set_option autoImplicit false

namespace InteriorPoint

namespace Setting

section
variable {α : Type} [Scalar α] {setting : Setting α}

/-- The centrality is that of the products of all families. -/
theorem value_centralityMeasure {products : PerFamily (List α)}
    (h : ∀ family, setting.value (.complementarity family) = .ok (products.get family)) :
    setting.value .centralityMeasure = .ok (centrality products.toList) := by
  have hproducts := PerFamily.ofFnM_eq_ok.2 h
  rw [value_eq]
  simp only [key, Quantity.formula, pure_bind, eval_bind, eval_complementarities, eval_pure,
    hproducts]
  rfl

end

variable {K : Type} [Field K] [LinearOrder K] [ExactFunctions K] {setting : Setting K}

/-- The mean complementarity, from dot products and the number of bounds. -/
theorem value_meanComplementarity {slack : Family → List K}
    (hslack : ∀ family, setting.value (.slack .current family) = .ok (slack family))
    (hlength : ∀ family, (slack family).length
      = (setting.state.current.multipliers.get family).entries.length) :
    setting.value (.meanComplementarity .current) = .ok (if setting.dims.boundCount = 0 then 0 else
      (Family.all.map fun family => Linear.laneDot (slack family)
        (setting.state.current.multipliers.get family).entries).sum
          / setting.dims.boundCount) := by
  have hdot := fun family => Linear.dot_eq_ok (hlength family)
  rw [value_eq]
  simp only [key, Quantity.formula, pure_bind, eval_bind, eval_foldlM, eval_ite, eval_pure,
    eval_lift, eval_value, iterateAt_current, Checked.ok_bind, hslack, hdot]
  split
  · rfl
  · -- The formula adds the products up in the order of the families.
    rw [List.foldlM_pure, pure_bind, List.sum_eq_foldl, List.foldl_map]
    rfl

/-- All families have products, and the mean complementarity and the
centrality are those of all their entries. -/
theorem Sound.exists_products [IsStrictOrderedRing K] (hsound : setting.Sound) :
    ∃ products : PerFamily (List K),
      (∀ family, setting.value (.complementarity family) = .ok (products.get family))
        ∧ setting.value (.meanComplementarity .current)
          = .ok (mean (allEntries products.toList))
        ∧ setting.value .centralityMeasure = .ok (centrality products.toList) := by
  choose slack hslack hsize _ using hsound.gives_slack setting.iterateAt_current
  have hlength : ∀ family, (slack family).length
      = (setting.state.current.multipliers.get family).entries.length := fun family =>
    (hsize family).trans (hsound.length_multiplier setting.iterateAt_current family).symm
  -- A family has the products of its slacks and its multipliers.
  let products : PerFamily (List K) := .ofFn fun family =>
    List.zipWith (· * ·) (slack family) (setting.state.current.multipliers.get family).entries
  have hget : ∀ family, products.get family = List.zipWith (· * ·) (slack family)
      (setting.state.current.multipliers.get family).entries := PerFamily.get_ofFn _
  have hproducts : ∀ family,
      setting.value (.complementarity family) = .ok (products.get family) := by
    intro family
    rw [hget]
    exact value_complementarity (hslack family) (hlength family)
  refine ⟨products, hproducts, ?_, value_centralityMeasure hproducts⟩
  -- The dot products add up to the sum of the products.
  have hsum : (Family.all.map fun family => Linear.laneDot (slack family)
      (setting.state.current.multipliers.get family).entries).sum
        = (allEntries products.toList).sum := by
    simp only [Linear.laneDot_eq, ← hget]
    rw [allEntries, Multiset.sum_coe, List.sum_flatten]
    rfl
  have hcount : (allEntries products.toList).card = setting.dims.boundCount :=
    Dimensions.length_flatten fun family => hsound.fits_value (hproducts family)
  rw [value_meanComplementarity hslack hlength, hsum, ← hcount]
  split
  · rename_i hempty
    rw [Multiset.card_eq_zero.1 hempty, mean_zero]
  · rfl

end Setting

end InteriorPoint
