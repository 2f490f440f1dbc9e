import InteriorPoint.Problem

/-!
# `InteriorPoint.Problem.Quartic`: a family of polynomial problems

Problems whose objective is a separable quartic in which neighbouring
variables are coupled by a bilinear term,

    f x = k + Σ i, (g i * x i + q i * (x i)² + w i * (x i)⁴) + Σ i, r * x i * x (i+1)

and whose constraints are separable quadratics,

    c j x = Σ i, (A j i * x i + A₂ j i * (x i)²) - b j

and likewise for `d` with `E`, `E₂` and `h`. Coefficients that are not
given are zero.

Rounding depends on the order of the operations. Products are taken
from the left, and sums are accumulated term by term in the order of
the formulas.
-/

set_option autoImplicit false

namespace InteriorPoint

/-- The coefficients of one group of constraints. -/
structure QuarticConstraints (α : Type) where
  /-- Linear coefficients, by constraint. -/
  linear : List (List α)
  /-- Quadratic coefficients, by constraint. -/
  quadratic : List (List α)
  /-- Right hand sides. -/
  offset : List α

/-- The coefficients of a problem of the family. -/
structure Quartic (α : Type) where
  /-- The number of variables. -/
  size : Nat
  /-- The number of equalities. -/
  equalities : Nat
  /-- The number of inequalities. -/
  inequalities : Nat
  /-- Constant term. -/
  constant : α
  /-- Linear coefficients. -/
  linear : List α
  /-- Quadratic coefficients. -/
  quadratic : List α
  /-- Coefficients of the fourth powers. -/
  fourth : List α
  /-- Coefficient of the products of neighbours. -/
  coupling : α
  c : QuarticConstraints α
  d : QuarticConstraints α

namespace Quartic

variable {α : Type} [Scalar α]

/-- An entry of a coefficient list, zero if it is missing. -/
def entry (coefficients : List α) (i : Nat) : α :=
  coefficients.getD i 0

/-- An entry of a coefficient table, zero if it is missing. -/
def tableEntry (table : List (List α)) (j i : Nat) : α :=
  entry (table.getD j []) i

/-- The terms added to a sum that belong to variable `i`. -/
def addObjectiveTerms (p : Quartic α) (x : List α) (sum : α) (i : Nat) : α :=
  let xi := entry x i
  let own := sum + entry p.linear i * xi + entry p.quadratic i * xi * xi
    + entry p.fourth i * xi * xi * xi * xi
  -- The last variable has no neighbour.
  if i + 1 < p.size then own + p.coupling * xi * entry x (i + 1) else own

/-- The objective. -/
def objective (p : Quartic α) (x : List α) : α :=
  (List.range p.size).foldl (p.addObjectiveTerms x) p.constant

/-- An entry of the gradient of the objective. -/
def gradientEntry (p : Quartic α) (x : List α) (i : Nat) : α :=
  let xi := entry x i
  let own := entry p.linear i + ((2 : Nat) : α) * entry p.quadratic i * xi
    + ((4 : Nat) : α) * entry p.fourth i * xi * xi * xi
  let left := if 0 < i then own + p.coupling * entry x (i - 1) else own
  if i + 1 < p.size then left + p.coupling * entry x (i + 1) else left

/-- The gradient of the objective. -/
def gradient (p : Quartic α) (x : List α) : List α :=
  (List.range p.size).map (p.gradientEntry x)

/-- The coefficients and the number of constraints of a group. -/
def group (p : Quartic α) : Group → QuarticConstraints α × Nat
  | .equality => (p.c, p.equalities)
  | .inequality => (p.d, p.inequalities)

/-- The value of constraint `j`. -/
def constraintEntry (p : Quartic α) (constraints : QuarticConstraints α) (x : List α) (j : Nat) :
    α :=
  let total := (List.range p.size).foldl
    (fun sum i =>
      sum + (tableEntry constraints.linear j i * entry x i
        + tableEntry constraints.quadratic j i * entry x i * entry x i)) 0
  total - entry constraints.offset j

/-- The values of a group of constraints. -/
def constraint (p : Quartic α) (group : Group) (x : List α) : List α :=
  let (constraints, count) := p.group group
  (List.range count).map (p.constraintEntry constraints x)

/-- The Jacobian of a group of constraints. -/
def jacobian (p : Quartic α) (group : Group) (x : List α) : Operator α :=
  let (constraints, count) := p.group group
  .dense <| .ofFn count p.size fun j i =>
    tableEntry constraints.linear j i
      + ((2 : Nat) : α) * tableEntry constraints.quadratic j i * entry x i

/-- Adds the second derivatives of a group, weighted by its
multipliers, to a diagonal entry of the Hessian. -/
def addCurvature (constraints : QuarticConstraints α) (count : Nat) (multipliers : List α)
    (i : Nat) (sum : α) : α :=
  (List.range count).foldl
    (fun sum j =>
      sum + entry multipliers j * (((2 : Nat) : α) * tableEntry constraints.quadratic j i)) sum

/-- A diagonal entry of the Hessian. -/
def hessianDiagonal (p : Quartic α) (x : List α) (weight : α) (yC yD : List α) (i : Nat) : α :=
  let xi := entry x i
  let own := weight * (((2 : Nat) : α) * entry p.quadratic i)
    + weight * (((12 : Nat) : α) * entry p.fourth i * xi * xi)
  addCurvature p.d p.inequalities yD i (addCurvature p.c p.equalities yC i own)

/-- The Hessian of the Lagrangian with the given weight of the
objective. -/
def hessian (p : Quartic α) (x : List α) (weight : α) (yC yD : List α) : Matrix α :=
  .ofFn p.size p.size fun i j =>
    if i = j then p.hessianDiagonal x weight yC yD i
    else if i = j + 1 ∨ j = i + 1 then weight * p.coupling
    else 0

/-- The functions of the problem. -/
def callbacks (p : Quartic α) : Callbacks α where
  objective := p.objective
  gradient := p.gradient
  constraint := p.constraint
  jacobian := p.jacobian
  hessian := p.hessian

end Quartic

end InteriorPoint
