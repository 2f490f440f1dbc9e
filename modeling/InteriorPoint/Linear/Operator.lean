import InteriorPoint.Linear.Matrix

/-!
# `InteriorPoint.Linear.Operator`: linear maps that are only multiplied with

A Jacobian is multiplied with vectors from either side, and nothing else
is asked of it. So it need not be a dense matrix: a sparse one, or one
that is never formed, is given by its two products (`Products`).

A product is used for vectors of the right size only. For such vectors it
has the size that the shape of the map prescribes, which is part of the
map.
-/

set_option autoImplicit false

namespace InteriorPoint

/-- A linear map that is given by its shape and its two products. -/
structure Products (α : Type) where
  /-- The number of rows. -/
  rowCount : Nat
  /-- The number of columns. -/
  columns : Nat
  /-- `J v`. -/
  times : List α → List α
  /-- `Jᵀ v`. -/
  transposeTimes : List α → List α
  /-- `J v` has one entry per row. -/
  length_times : ∀ v, v.length = columns → (times v).length = rowCount
  /-- `Jᵀ v` has one entry per column. -/
  length_transposeTimes : ∀ v, v.length = rowCount → (transposeTimes v).length = columns

/-- A linear map between vectors. -/
inductive Operator (α : Type) where
  /-- A matrix with all its entries. -/
  | dense (A : Matrix α)
  /-- A map of which only the products are known. -/
  | matrixFree (J : Products α)

namespace Operator

variable {α : Type}

/-- The number of rows. -/
def rowCount : Operator α → Nat
  | dense A => A.rowCount
  | matrixFree J => J.rowCount

/-- The number of columns. -/
def columns : Operator α → Nat
  | dense A => A.columns
  | matrixFree J => J.columns

variable [Scalar α]

/-- The product `J v`. -/
def mulVec : Operator α → List α → Checked α (List α)
  | dense A, v => A.mulVec v
  | matrixFree J, v => if v.length = J.columns then .ok (J.times v) else .error .misaligned

/-- The product `Jᵀ v`. -/
def transposeMulVec : Operator α → List α → Checked α (List α)
  | dense A, v => A.transposeMulVec v
  | matrixFree J, v =>
    if v.length = J.rowCount then .ok (J.transposeTimes v) else .error .misaligned

end Operator

end InteriorPoint
