import InteriorPoint.Scalar
import InteriorPoint.Error

/-!
# `InteriorPoint.Linear.Vector`: elementary vector operations

A vector is the list of its entries. An operation on two vectors is
defined for equal lengths only and reports `Error.misaligned`
otherwise, so a program built from these operations shows in its result
whether some pair of sizes did not fit.

Since sums of rounded numbers depend on their order, the order is part
of each definition. Plain sums run from left to right. The dot product
runs in eight lanes: entry `8k + j` goes to lane `j` as long as eight
entries are left, the lanes are then added in the order
`(0 + 4) + (1 + 5) + (2 + 6) + (3 + 7)`, and the remaining products
follow one by one.
-/

set_option autoImplicit false

namespace InteriorPoint.Linear

variable {α : Type}

/-- The vector with every entry zero. -/
def zeros [Zero α] (n : Nat) : List α :=
  List.replicate n 0

/-- Entry by entry application of `f` to two vectors of equal length. -/
def pairwise (f : α → α → α) (u v : List α) : Checked α (List α) :=
  if u.length = v.length then .ok (List.zipWith f u v) else .error .misaligned

variable [Scalar α]

/-- Both vectors have the same length and equal entries. -/
def same : List α → List α → Bool
  | [], [] => true
  | a :: u, b :: v => Scalar.Same a b && same u v
  | _, _ => false

/-- `u + v`. -/
def add (u v : List α) : Checked α (List α) :=
  pairwise (· + ·) u v

/-- `u - v`. -/
def sub (u v : List α) : Checked α (List α) :=
  pairwise (· - ·) u v

/-- The products of matching entries. -/
def entrywiseMul (u v : List α) : Checked α (List α) :=
  pairwise (· * ·) u v

/-- The quotients of matching entries. -/
def entrywiseDiv (u v : List α) : Checked α (List α) :=
  pairwise (· / ·) u v

/-- `-v`. -/
def neg (v : List α) : List α :=
  v.map (- ·)

/-- `v` with `a` added to every entry. -/
def shift (a : α) (v : List α) : List α :=
  v.map (· + a)

/-- `base + alpha * step`, the product taken first. -/
def moveAlong (base : List α) (alpha : α) (step : List α) : Checked α (List α) :=
  add base (step.map (· * alpha))

/-- Sum of absolute values, from left to right. -/
def sumAbs (v : List α) : α :=
  Scalar.sum (v.map Scalar.abs)

/-- Sum of `products` in eight lanes that already hold `a0` to `a7`. -/
def laneSum (a0 a1 a2 a3 a4 a5 a6 a7 : α) : List α → α
  | p0 :: p1 :: p2 :: p3 :: p4 :: p5 :: p6 :: p7 :: rest =>
    laneSum (a0 + p0) (a1 + p1) (a2 + p2) (a3 + p3) (a4 + p4) (a5 + p5) (a6 + p6) (a7 + p7)
      rest
  -- At most seven products are left. The lanes are added up in pairs before them.
  | rest => rest.foldl (· + ·) (0 + (a0 + a4) + (a1 + a5) + (a2 + a6) + (a3 + a7))

/-- Sum of the products of matching entries, in eight lanes. Entries
without a partner are left out. -/
def laneDot (u v : List α) : α :=
  laneSum 0 0 0 0 0 0 0 0 (List.zipWith (· * ·) u v)

/-- The dot product of two vectors of equal length. -/
def dot (u v : List α) : Checked α α :=
  if u.length = v.length then .ok (laneDot u v) else .error .misaligned

/-- The square of the Euclidean length. -/
def squaredLength (v : List α) : α :=
  laneDot v v

end InteriorPoint.Linear
