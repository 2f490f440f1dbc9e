import InteriorPoint.Bounds
import InteriorPoint.Iterate
import InteriorPoint.Linear.Operator

/-!
# `InteriorPoint.Problem`: the nonlinear program

The problem is to minimize `f x` subject to `c x = 0`,
`dL ≤ d x ≤ dU` and `xL ≤ x ≤ xU`. The inequalities are handled with
slack variables `s` and `d x - s = 0`, so the bounds on `d` are bounds
on `s`.

The functions of the problem are given as `Callbacks`. They are
functions of their arguments alone, which is what allows their results
to be stored. Nothing is assumed about the size of what they return. A
Jacobian is a linear map that need not be a dense matrix.
-/

set_option autoImplicit false

namespace InteriorPoint

/-- A group of general constraints. -/
inductive Group where
  /-- The equalities `c x = 0`. -/
  | equality
  /-- The inequalities `d x - s = 0`. -/
  | inequality
deriving DecidableEq, Repr

namespace Group

/-- The letter of the group's function. -/
def label : Group → String
  | equality => "c"
  | inequality => "d"

end Group

/-- The functions of a problem and their derivatives. -/
structure Callbacks (α : Type) where
  /-- `f x`. -/
  objective : List α → α
  /-- The gradient of `f`. -/
  gradient : List α → List α
  /-- `c x` or `d x`. -/
  constraint : Group → List α → List α
  /-- The Jacobian of `c` or `d`. -/
  jacobian : Group → List α → Operator α
  /-- The Hessian of `weight * f + yC · c + yD · d` for given `x`,
  `weight`, `yC` and `yD`. -/
  hessian : List α → α → List α → List α → Matrix α

/-- One of the functions of a problem. -/
inductive Callback where
  | objective
  | gradient
  | constraint (group : Group)
  | jacobian (group : Group)
  | hessian
deriving DecidableEq, Repr

/-- A nonlinear program. -/
structure Problem (α : Type) where
  /-- Bounds on `x`. -/
  xBounds : Bounds α
  /-- Bounds on `d x`, and on `s`. -/
  dBounds : Bounds α
  /-- The number of equalities. -/
  equalities : Nat
  callbacks : Callbacks α

namespace Problem

variable {α : Type}

/-- The bounds on a block of variables. -/
def bounds (problem : Problem α) : Block → Bounds α
  | .x => problem.xBounds
  | .s => problem.dBounds

/-- The bounds of a family. -/
def limits (problem : Problem α) (family : Family) : Limits α :=
  (problem.bounds family.block).side family.side

/-- The sizes that the bounds and the number of equalities prescribe. -/
def dimensions (problem : Problem α) : Dimensions where
  x := problem.xBounds.dim
  s := problem.dBounds.dim
  c := problem.equalities
  bounds := .ofFn fun family => (problem.limits family).size

end Problem

end InteriorPoint
