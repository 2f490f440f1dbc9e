import InteriorPoint.Problem

/-!
# `InteriorPoint.Problem.Spoiled`: functions that answer with zeros

For trying out how an engine deals with wrong answers, some functions
of a problem can be replaced by ones that answer with zeros of a chosen
shape.
-/

set_option autoImplicit false

namespace InteriorPoint

/-- The shapes of the answers of the replaced functions. The others stay
as they are. -/
structure Spoilage where
  gradient : Option Nat := none
  c : Option Nat := none
  d : Option Nat := none
  /-- Rows and columns. -/
  jacobianC : Option (Nat × Nat) := none
  /-- Rows and columns. -/
  jacobianD : Option (Nat × Nat) := none
  /-- Rows and columns. -/
  hessian : Option (Nat × Nat) := none

namespace Spoilage

/-- The answer of a constraint function, if it is replaced. -/
def constraint (spoilage : Spoilage) : Group → Option Nat
  | .equality => spoilage.c
  | .inequality => spoilage.d

/-- The answer of a Jacobian, if it is replaced. -/
def jacobian (spoilage : Spoilage) : Group → Option (Nat × Nat)
  | .equality => spoilage.jacobianC
  | .inequality => spoilage.jacobianD

variable {α : Type} [Scalar α]

/-- The functions with some of them replaced. -/
def apply (spoilage : Spoilage) (callbacks : Callbacks α) : Callbacks α where
  objective := callbacks.objective
  gradient x := (spoilage.gradient.map Linear.zeros).getD (callbacks.gradient x)
  constraint group x :=
    ((spoilage.constraint group).map Linear.zeros).getD (callbacks.constraint group x)
  jacobian group x :=
    ((spoilage.jacobian group).map fun shape => .dense (.zero shape.1 shape.2)).getD
      (callbacks.jacobian group x)
  hessian x weight yC yD :=
    (spoilage.hessian.map fun shape => Matrix.zero shape.1 shape.2).getD
      (callbacks.hessian x weight yC yD)

end Spoilage

end InteriorPoint
