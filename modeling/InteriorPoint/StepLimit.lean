import InteriorPoint.Linear.Vector

/-!
# `InteriorPoint.StepLimit`: the fraction-to-the-boundary rule

A step may use up at most the fraction `tau` of the distance of each
entry to zero. `StepLimit.fractionToBoundary` is the largest step
length in `[0, 1]` that respects this for a vector of distances.
-/

set_option autoImplicit false

namespace InteriorPoint.StepLimit

variable {α : Type} [Scalar α]

/-- Lowers the limit `alpha` to what one entry allows. Only an entry
that moves towards zero constrains the step. -/
def restrict (tau alpha value step : α) : α :=
  if step < 0 then Scalar.min alpha (-tau * value / step) else alpha

/-- The largest step length in `[0, 1]` with
`(1 - tau) * values ≤ values + alpha * delta`. Entries that are not
positive and move down give zero. -/
def fractionToBoundary (tau : α) (values delta : List α) : Checked α α := do
  ensureSize "frac_to_bound delta" values.length delta.length
  let limit :=
    (List.zip values delta).foldl (fun alpha entry => restrict tau alpha entry.1 entry.2) 1
  -- An entry that is not positive may have lowered it below zero.
  return Scalar.max limit 0

/-- Accepts fractions in `(0, 1]`. -/
def ensureFraction (tau : α) : Checked α Unit :=
  if 0 < tau ∧ tau ≤ 1 then .ok () else .error (.invalidParameter "tau" tau "(0, 1]")

end InteriorPoint.StepLimit
