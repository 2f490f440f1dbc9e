import InteriorPoint.Iterate

/-!
# `InteriorPoint.Optimality`: scaling and centrality of an iterate

`Iterate.errorScaling` gives the divisors of the optimality error, which
grow with the mean size of the multipliers. `centrality` compares the
smallest complementarity product with the mean one.
-/

set_option autoImplicit false

namespace InteriorPoint

/-- The divisors of the optimality error. -/
structure ErrorScaling (α : Type) where
  /-- For the dual infeasibility. -/
  dual : α
  /-- For the complementarity. -/
  complementarity : α
deriving DecidableEq, Repr

variable {α : Type} [Scalar α]

/-- The divisor for multipliers whose absolute values add up to `total`:
their mean relative to the threshold, but at least one. It is one if
there are no multipliers. -/
def scalingFactor (threshold total : α) (count : Nat) : α :=
  if count = 0 then 1 else Scalar.max threshold (total / (count : α)) / threshold

/-- The scaling of the optimality error at an iterate. The bound
multipliers enter both factors, the constraint multipliers the dual
factor only. -/
def Iterate.errorScaling (iterate : Iterate α) (threshold : α) : ErrorScaling α :=
  let multipliers := iterate.multipliers.toList.map TaggedVector.entries
  let yC := iterate.yC.entries
  let yD := iterate.yD.entries
  let boundCount := multipliers.flatten.length
  let boundTotal := Scalar.sum (multipliers.map Linear.sumAbs)
  { dual :=
      scalingFactor threshold (boundTotal + Linear.sumAbs yC + Linear.sumAbs yD)
        (boundCount + yC.length + yD.length)
    complementarity := scalingFactor threshold boundTotal boundCount }

/-- The smallest entry of a nonempty list, undefined entries passed
over. -/
def smallest : List α → Option α
  | [] => none
  | entry :: rest => some (rest.foldl Scalar.min entry)

/-- The smallest complementarity product relative to the mean one,
within `[0, 1]`. Without products it is one, and with a mean that is
not positive it is zero. -/
def centrality (products : List (List α)) : α :=
  match smallest products.flatten with
  | none => 1
  | some least =>
    let mean := Scalar.sum (products.map Scalar.sum) / (products.flatten.length : α)
    -- Of products with such a mean, the ratio would say nothing.
    if mean ≤ 0 then 0 else Scalar.clamp 0 1 (least / mean)

end InteriorPoint
