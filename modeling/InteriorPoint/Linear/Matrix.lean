import InteriorPoint.Linear.Vector

/-!
# `InteriorPoint.Linear.Matrix`: dense matrices

A matrix is the list of its rows together with the number of columns,
which the rows alone do not give when there are none. Its two products
accumulate differently, and each keeps its own order:

* `A v` starts entry `i` with `A i 0 * v 0` and goes on with
  `A i j * v j + y` for `j = 1, 2, …`;
* the entries of `Aᵀ v` are dot products of columns, in eight lanes.
-/

set_option autoImplicit false

namespace InteriorPoint

/-- A dense matrix, row by row. -/
structure Matrix (α : Type) where
  /-- The rows, from top to bottom. -/
  rows : List (List α)
  /-- The number of columns. -/
  columns : Nat
  /-- Every row has one entry per column. -/
  row_length : ∀ row ∈ rows, row.length = columns

namespace Matrix

variable {α : Type}

/-- The number of rows. -/
def rowCount (A : Matrix α) : Nat :=
  A.rows.length

/-- The matrix whose entry in row `i` and column `j` is `entry i j`. -/
def ofFn (rows columns : Nat) (entry : Nat → Nat → α) : Matrix α where
  rows := (List.range rows).map fun i => (List.range columns).map (entry i)
  columns := columns
  row_length := by
    intro row member
    obtain ⟨i, -, rfl⟩ := List.mem_map.1 member
    simp

variable [Scalar α]

/-- The matrix with every entry zero. -/
def zero (rows columns : Nat) : Matrix α :=
  ofFn rows columns fun _ _ => 0

/-- The entries of column `j`, from top to bottom. -/
def column (A : Matrix α) (j : Nat) : List α :=
  A.rows.map (·.getD j 0)

/-- One entry of `A v`: the first product, then `a * x + y` along the
row. -/
def rowProduct : List α → List α → α
  | a :: row, x :: v => (List.zip row v).foldl (fun y entry => entry.1 * entry.2 + y) (a * x)
  | _, _ => 0

/-- The product `A v`. -/
def mulVec (A : Matrix α) (v : List α) : Checked α (List α) :=
  if v.length = A.columns then .ok (A.rows.map (rowProduct · v)) else .error .misaligned

/-- The product `Aᵀ v`. -/
def transposeMulVec (A : Matrix α) (v : List α) : Checked α (List α) :=
  if v.length = A.rowCount then
    .ok ((List.range A.columns).map fun j => Linear.laneDot (A.column j) v)
  else .error .misaligned

end Matrix

end InteriorPoint
