import InteriorPoint.Linear.Vector

/-!
# `InteriorPoint.Norm`: norms of stacked vectors

A norm is applied to several vectors as if they were stacked into one.
The sum and the Euclidean norm reduce each vector by itself first and
then add the partial results, which is the same number in exact
arithmetic and the order that rounding sees. An empty stack has norm
zero.
-/

set_option autoImplicit false

namespace InteriorPoint

/-- Which norm measures a residual. -/
inductive Norm where
  /-- Sum of absolute values. -/
  | one
  /-- Euclidean norm. -/
  | two
  /-- Largest absolute value. -/
  | max
deriving DecidableEq, Repr, Inhabited

namespace Norm

/-- The name of the norm in messages. -/
def label : Norm → String
  | one => "1-norm"
  | two => "2-norm"
  | max => "max-norm"

/-- The norm used where none is chosen. -/
def standard : Norm :=
  one

variable {α : Type} [Scalar α]

/-- The norm of the vectors stacked on top of each other. The largest
absolute value passes over undefined entries, the other two keep them. -/
def ofVectors (vectors : List (List α)) : Norm → α
  | one => Scalar.sum (vectors.map Linear.sumAbs)
  | two => Scalar.sqrt (Scalar.sum (vectors.map Linear.squaredLength))
  | max => vectors.flatten.foldl (fun largest entry => Scalar.max largest (Scalar.abs entry)) 0

/-- The norm of two vectors stacked on top of each other. -/
def ofPair (norm : Norm) (first second : List α) : α :=
  norm.ofVectors [first, second]

end Norm

end InteriorPoint
