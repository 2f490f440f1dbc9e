import InteriorPoint.Event

/-!
# `InteriorPoint.Quantity`: the quantities an engine can be asked for

`Quantity α k` lists everything that is computed from the state and kept
for later requests. The index `k` says whether the result is a number,
a vector, a matrix or a linear map. A quantity that takes arguments of its own, such
as a norm or a vector, carries them.

Some quantities are computed from others. `Quantity.rank` is the number
of layers below a quantity, and a formula asks only for quantities of
smaller rank (`InteriorPoint.Quantity.Formula`), so asking ends.

Every quantity has a `Slot`, the cache that keeps its results. A slot
forgets the arguments, which are part of the key instead, but keeps the
point and the family.
-/

set_option autoImplicit false

namespace InteriorPoint

/-- The shape of a result. -/
inductive Kind where
  | scalar
  | vector
  | matrix
  | operator
deriving DecidableEq, Repr

/-- The results of a kind. -/
abbrev Carrier (α : Type) : Kind → Type
  | .scalar => α
  | .vector => List α
  | .matrix => Matrix α
  | .operator => Operator α

/-- A quantity derived from the state of an optimizer. Where no point is
given the current one is meant. -/
inductive Quantity (α : Type) : Kind → Type where
  /-- Distances to the bounds of a family, corrected where they have
  collapsed. -/
  | slack (point : Point) (family : Family) : Quantity α .vector
  /-- `f x`. -/
  | objective (point : Point) : Quantity α .scalar
  /-- The gradient of `f`. -/
  | objectiveGradient : Quantity α .vector
  /-- `f x` plus the barrier and damping terms. -/
  | barrierObjective (point : Point) : Quantity α .scalar
  /-- The gradient of the barrier objective in a block of variables. -/
  | barrierGradient (block : Block) : Quantity α .vector
  /-- The derivative of the barrier objective along the search
  direction. -/
  | directionalDerivative : Quantity α .scalar
  /-- `c x` or `d x`. -/
  | constraint (group : Group) (point : Point) : Quantity α .vector
  /-- `d x - s`. -/
  | inequalityResidual (point : Point) : Quantity α .vector
  /-- The Jacobian of `c` or `d`. -/
  | jacobian (group : Group) : Quantity α .operator
  /-- A Jacobian times a vector. -/
  | jacobianTimes (group : Group) (v : TaggedVector α) : Quantity α .vector
  /-- A transposed Jacobian times a vector. -/
  | jacobianTransposeTimes (group : Group) (v : TaggedVector α) : Quantity α .vector
  /-- The constraint violation in the norm of the options. -/
  | constraintViolation (point : Point) : Quantity α .scalar
  /-- The Hessian of the Lagrangian. -/
  | hessian : Quantity α .matrix
  /-- The gradient of the Lagrangian in a block of variables. -/
  | lagrangianGradient (block : Block) : Quantity α .vector
  /-- Products of slacks and multipliers. -/
  | complementarity (family : Family) : Quantity α .vector
  /-- These products less `mu`. -/
  | relaxedComplementarity (family : Family) : Quantity α .vector
  /-- Norm of `c x` and `d x - s`. -/
  | primalInfeasibility (point : Point) (norm : Norm) : Quantity α .scalar
  /-- Norm of the gradient of the Lagrangian. -/
  | dualInfeasibility (norm : Norm) : Quantity α .scalar
  /-- Norm of all complementarity products less a given number. -/
  | complementarityNorm (target : α) (norm : Norm) : Quantity α .scalar
  /-- How evenly the complementarity products are distributed. -/
  | centralityMeasure : Quantity α .scalar
  /-- Scaled optimality error of the problem itself. -/
  | problemError : Quantity α .scalar
  /-- Scaled optimality error of the barrier problem. -/
  | barrierError : Quantity α .scalar
  /-- Mean residual of the problem itself. -/
  | meanError : Quantity α .scalar
  /-- Mean residual of the barrier problem. -/
  | meanBarrierError : Quantity α .scalar
  /-- Longest step in `x` and `s` that stays inside the bounds. -/
  | primalStepLimit (tau : α) (xStep sStep : TaggedVector α) : Quantity α .scalar
  /-- Longest step in the bound multipliers that keeps them positive. -/
  | dualStepLimit (tau : α) (steps : PerFamily (TaggedVector α)) : Quantity α .scalar
  /-- Longest step for given steps of the slacks. -/
  | slackStepLimit (tau : α) (steps : PerFamily (TaggedVector α)) : Quantity α .scalar
  /-- The primal-dual scaling of a block of variables. -/
  | primalDualScaling (block : Block) : Quantity α .vector
  /-- Mean complementarity product. -/
  | meanComplementarity (point : Point) : Quantity α .scalar

/-- A cache for the results of one quantity. -/
inductive Slot : Kind → Type where
  | slack (point : Point) (family : Family) : Slot .vector
  | objective (point : Point) : Slot .scalar
  | objectiveGradient : Slot .vector
  | barrierObjective (point : Point) : Slot .scalar
  | barrierGradient (block : Block) : Slot .vector
  | directionalDerivative : Slot .scalar
  | constraint (group : Group) (point : Point) : Slot .vector
  | inequalityResidual (point : Point) : Slot .vector
  | jacobian (group : Group) : Slot .operator
  | jacobianTimes (group : Group) : Slot .vector
  | jacobianTransposeTimes (group : Group) : Slot .vector
  | constraintViolation (point : Point) : Slot .scalar
  | hessian : Slot .matrix
  | lagrangianGradient (block : Block) : Slot .vector
  | complementarity (family : Family) : Slot .vector
  | relaxedComplementarity (family : Family) : Slot .vector
  | primalInfeasibility (point : Point) : Slot .scalar
  | dualInfeasibility : Slot .scalar
  | complementarityNorm : Slot .scalar
  | centralityMeasure : Slot .scalar
  | problemError : Slot .scalar
  | barrierError : Slot .scalar
  | meanError : Slot .scalar
  | meanBarrierError : Slot .scalar
  | primalStepLimit : Slot .scalar
  | dualStepLimit : Slot .scalar
  | slackStepLimit : Slot .scalar
  | primalDualScaling (block : Block) : Slot .vector
  | meanComplementarity (point : Point) : Slot .scalar
deriving DecidableEq

namespace Quantity

variable {α : Type} {k : Kind}

/-- The number of layers of other quantities below this one. -/
def rank : {k : Kind} → Quantity α k → Nat
  | _, slack _ _ | _, objective _ | _, objectiveGradient | _, constraint _ _ | _, jacobian _
  | _, hessian | _, dualStepLimit _ _ => 0
  | _, barrierObjective _ | _, barrierGradient _ | _, inequalityResidual _ | _, jacobianTimes _ _
  | _, jacobianTransposeTimes _ _ | _, complementarity _ | _, primalStepLimit _ _ _
  | _, slackStepLimit _ _ | _, primalDualScaling _ | _, meanComplementarity _ => 1
  | _, directionalDerivative | _, constraintViolation _ | _, lagrangianGradient _
  | _, relaxedComplementarity _ | _, primalInfeasibility _ _ | _, complementarityNorm _ _
  | _, centralityMeasure => 2
  | _, dualInfeasibility _ => 3
  | _, problemError | _, barrierError | _, meanError | _, meanBarrierError => 4

/-- The cache that keeps the results of a quantity. -/
def slot : {k : Kind} → Quantity α k → Slot k
  | _, slack point family => .slack point family
  | _, objective point => .objective point
  | _, objectiveGradient => .objectiveGradient
  | _, barrierObjective point => .barrierObjective point
  | _, barrierGradient block => .barrierGradient block
  | _, directionalDerivative => .directionalDerivative
  | _, constraint group point => .constraint group point
  | _, inequalityResidual point => .inequalityResidual point
  | _, jacobian group => .jacobian group
  | _, jacobianTimes group _ => .jacobianTimes group
  | _, jacobianTransposeTimes group _ => .jacobianTransposeTimes group
  | _, constraintViolation point => .constraintViolation point
  | _, hessian => .hessian
  | _, lagrangianGradient block => .lagrangianGradient block
  | _, complementarity family => .complementarity family
  | _, relaxedComplementarity family => .relaxedComplementarity family
  | _, primalInfeasibility point _ => .primalInfeasibility point
  | _, dualInfeasibility _ => .dualInfeasibility
  | _, complementarityNorm _ _ => .complementarityNorm
  | _, centralityMeasure => .centralityMeasure
  | _, problemError => .problemError
  | _, barrierError => .barrierError
  | _, meanError => .meanError
  | _, meanBarrierError => .meanBarrierError
  | _, primalStepLimit _ _ _ => .primalStepLimit
  | _, dualStepLimit _ _ => .dualStepLimit
  | _, slackStepLimit _ _ => .slackStepLimit
  | _, primalDualScaling block => .primalDualScaling block
  | _, meanComplementarity point => .meanComplementarity point

end Quantity

namespace Slot

/-- What the cache is called in reports. -/
def name : {k : Kind} → Slot k → String
  | _, slack point family => point.label ++ "_slack_" ++ family.label
  | _, objective point => point.label ++ "_f"
  | _, objectiveGradient => "curr_grad_f"
  | _, barrierObjective point => point.label ++ "_barrier_obj"
  | _, barrierGradient block => "curr_grad_barrier_obj_" ++ block.label
  | _, directionalDerivative => "curr_grad_barr_t_delta"
  | _, constraint group point => point.label ++ "_" ++ group.label
  | _, inequalityResidual point => point.label ++ "_d_minus_s"
  | _, jacobian group => "curr_jac_" ++ group.label
  | _, jacobianTimes group => "curr_jac_" ++ group.label ++ "_times_vec"
  | _, jacobianTransposeTimes group => "curr_jac_" ++ group.label ++ "T_times_vec"
  | _, constraintViolation point => point.label ++ "_constraint_violation"
  | _, hessian => "curr_exact_hessian"
  | _, lagrangianGradient block => "curr_grad_lag_" ++ block.label
  | _, complementarity family => "curr_compl_" ++ family.label
  | _, relaxedComplementarity family => "curr_relaxed_compl_" ++ family.label
  | _, primalInfeasibility point => point.label ++ "_primal_infeasibility"
  | _, dualInfeasibility => "curr_dual_infeasibility"
  | _, complementarityNorm => "curr_complementarity"
  | _, centralityMeasure => "curr_centrality_measure"
  | _, problemError => "curr_nlp_error"
  | _, barrierError => "curr_barrier_error"
  | _, meanError => "curr_primal_dual_error"
  | _, meanBarrierError => "curr_relaxed_primal_dual_error"
  | _, primalStepLimit => "primal_frac_to_the_bound"
  | _, dualStepLimit => "dual_frac_to_the_bound"
  | _, slackStepLimit => "slack_frac_to_the_bound"
  | _, primalDualScaling block => "curr_sigma_" ++ block.label
  | _, meanComplementarity point => point.label ++ "_avrg_compl"

/-- How many results the cache keeps: one for each argument that occurs
side by side within an iteration. -/
def capacity : {k : Kind} → Slot k → Nat
  | _, jacobianTimes _ | _, jacobianTransposeTimes _ | _, primalStepLimit | _, dualStepLimit
  | _, slackStepLimit => 2
  | _, primalInfeasibility _ | _, dualInfeasibility => 3
  | _, complementarityNorm => 4
  | _, _ => 1

/-- For a quantity that exists at both points, the cache of the other
point. -/
def counterpart? : {k : Kind} → Slot k → Option (Slot k)
  | _, slack point family => some (.slack point.other family)
  | _, objective point => some (.objective point.other)
  | _, barrierObjective point => some (.barrierObjective point.other)
  | _, constraint group point => some (.constraint group point.other)
  | _, inequalityResidual point => some (.inequalityResidual point.other)
  | _, constraintViolation point => some (.constraintViolation point.other)
  | _, primalInfeasibility point => some (.primalInfeasibility point.other)
  | _, meanComplementarity point => some (.meanComplementarity point.other)
  | _, _ => none

end Slot

end InteriorPoint
