import InteriorPoint.Bounds

/-!
# `InteriorPoint.Bounds.Damping`: which bounds are damped

A variable with a bound on one side only receives a linear term in the
barrier objective, which keeps that objective bounded below along
directions in which the feasible set is unbounded. The indicator of a
family has one entry per bound of the family: one if the coordinate has
no bound on the other side and zero if it has.
-/

set_option autoImplicit false

namespace InteriorPoint

variable {α : Type} [Scalar α]

/-- One for each coordinate of `own` that `opposite` does not select and
zero for the others. -/
def oneSidedIndicator (own opposite : Selection) : List α :=
  own.indices.map fun i => if i ∈ opposite.indices then 0 else 1

/-- The damping indicators of all families, from the bounds on `x` and
on the inequalities. -/
def dampingIndicators (xBounds dBounds : Bounds α) : PerFamily (List α) where
  xLower := oneSidedIndicator xBounds.lower.selection xBounds.upper.selection
  xUpper := oneSidedIndicator xBounds.upper.selection xBounds.lower.selection
  sLower := oneSidedIndicator dBounds.lower.selection dBounds.upper.selection
  sUpper := oneSidedIndicator dBounds.upper.selection dBounds.lower.selection

end InteriorPoint
