import InteriorPoint.Norm

/-!
# `InteriorPoint.Options`: the parameters of an engine

The four parameters that stay fixed while an engine answers requests,
their standard values and their admissible ranges.
-/

set_option autoImplicit false

namespace InteriorPoint

/-- Parameters read by the quantities. -/
structure Options (α : Type) where
  /-- Norm of the constraint violation. -/
  violationNorm : Norm
  /-- Mean multiplier size above which the optimality error is scaled
  down. -/
  multiplierThreshold : α
  /-- Weight of the linear damping of one-sided bounds. Zero turns the
  damping off. -/
  dampingWeight : α
  /-- Relative distance by which a bound may move when a collapsed slack
  is corrected. -/
  boundMove : α
deriving DecidableEq, Repr

namespace Options

variable {α : Type} [Scalar α]

/-- The standard values: threshold `100`, weight `10⁻⁵` and move
`2⁻³⁹`, which is `(2⁻⁵²)` to the power of three quarters. -/
def standard : Options α where
  violationNorm := Norm.standard
  multiplierThreshold := ((100 : Nat) : α)
  dampingWeight := 1 / (Nat.pow 10 5 : α)
  boundMove := 1 / (Nat.pow 2 39 : α)

/-- All values are the standard ones. -/
def isStandard (options : Options α) : Bool :=
  options.violationNorm = Norm.standard
    && Scalar.Same options.multiplierThreshold standard.multiplierThreshold
    && Scalar.Same options.dampingWeight standard.dampingWeight
    && Scalar.Same options.boundMove standard.boundMove

/-- A finite value of at least `least`. An undefined value is refused. -/
def inRange (least value : α) : Bool :=
  Scalar.isFinite value && decide (least ≤ value)

/-- Accepts options whose values all lie in range. The first that does
not is reported. -/
def validate (options : Options α) : Checked α Unit := do
  unless inRange 1 options.multiplierThreshold do
    throw (.invalidOption "s_max" options.multiplierThreshold "must be finite and at least 1")
  unless inRange 0 options.dampingWeight do
    throw (.invalidOption "kappa_d" options.dampingWeight "must be finite and non-negative")
  unless inRange 0 options.boundMove do
    throw (.invalidOption "s_move" options.boundMove "must be finite and non-negative")

end Options

end InteriorPoint
