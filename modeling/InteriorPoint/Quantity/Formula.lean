import InteriorPoint.Optimality
import InteriorPoint.Quantity.Program
import InteriorPoint.Quantity.Setting
import InteriorPoint.Slack

/-!
# `InteriorPoint.Quantity.Formula`: how each quantity is computed

`Quantity.formula` gives for every quantity the program that computes
it from the setting and from quantities of smaller rank. The order in
which a program asks is the order in which functions of the problem are
called when nothing is known yet.

What a function of the problem returns is checked for its size before
it is used, and so is every vector a caller supplies (see
`Setting.key`).
-/

set_option autoImplicit false

namespace InteriorPoint

open Program

variable {α : Type} [Scalar α]

/-- The barrier and damping terms of the objective for given slacks:
`-mu * Σ log slack`, and for a positive damping weight in addition
`weight * mu * Σ indicator · slack`. -/
def barrierTerm (setting : Setting α) (slacks : PerFamily (List α)) : Checked α α := do
  let logarithms := slacks.toList.map fun slack => Scalar.sum (slack.map Scalar.log)
  let barrier := -setting.mu * Scalar.sum logarithms
  if 0 < setting.options.dampingWeight then
    let damped ← Family.all.mapM fun family =>
      Linear.dot (setting.damping.get family) (slacks.get family)
    return barrier + setting.options.dampingWeight * setting.mu * Scalar.sum damped
  else return barrier

namespace Quantity

variable {bound : Nat}

/-- The slacks of all families at a point. -/
def slacks (point : Point) (lower : 0 < bound := by exact of_decide_eq_true rfl) :
    Program α bound (PerFamily (List α)) :=
  PerFamily.ofFnM fun family => value (.slack point family) lower

/-- The complementarity products of all families. -/
def complementarities (lower : 1 < bound := by exact of_decide_eq_true rfl) :
    Program α bound (PerFamily (List α)) :=
  PerFamily.ofFnM fun family => value (.complementarity family) lower

/-- Adds the gradients of the barrier and damping terms of one block to
`gradient`. -/
def addBarrierGradient (setting : Setting α) (block : Block) (gradient : List α)
    (lower : 0 < bound := by exact of_decide_eq_true rfl) : Program α bound (List α) := do
  let mu := setting.mu
  let lowerSlack ← value (.slack .current ⟨block, .lower⟩) lower
  let upperSlack ← value (.slack .current ⟨block, .upper⟩) lower
  let lowerMap := (setting.problem.bounds block).lower.selection
  let upperMap := (setting.problem.bounds block).upper.selection
  let gradient ← lowerMap.scatterAdd (-mu) (lowerSlack.map (1 / ·)) gradient
  let gradient ← upperMap.scatterAdd mu (upperSlack.map (1 / ·)) gradient
  let weight := setting.options.dampingWeight * mu
  if 0 < weight then
    -- A lower slack grows with its variable and an upper one shrinks, hence
    -- the two signs.
    let gradient ← lowerMap.scatterAdd weight (setting.damping.get ⟨block, .lower⟩) gradient
    upperMap.scatterAdd (-weight) (setting.damping.get ⟨block, .upper⟩) gradient
  else return gradient

/-- Adds the terms of the bound multipliers of one block to a gradient
of the Lagrangian. -/
def addMultiplierGradient (setting : Setting α) (block : Block) (gradient : List α) :
    Checked α (List α) := do
  let bounds := setting.problem.bounds block
  let multipliers := setting.state.current.multipliers
  let gradient ←
    bounds.lower.selection.scatterAdd (-1) (multipliers.get ⟨block, .lower⟩).entries gradient
  bounds.upper.selection.scatterAdd 1 (multipliers.get ⟨block, .upper⟩).entries gradient

/-- The longest step of one block for a step in the full space: against
its lower slacks along the step, and against its upper slacks along the
opposite direction. -/
def blockStepLimit (setting : Setting α) (block : Block) (tau : α) (step : TaggedVector α)
    (lower : 0 < bound := by exact of_decide_eq_true rfl) : Program α bound α := do
  let lowerSlack ← value (.slack .current ⟨block, .lower⟩) lower
  let upperSlack ← value (.slack .current ⟨block, .upper⟩) lower
  let bounds := setting.problem.bounds block
  let lowerStep ← bounds.lower.selection.select step.entries
  let upperStep ← bounds.upper.selection.select step.entries
  let lowerLimit ← StepLimit.fractionToBoundary tau lowerSlack lowerStep
  let upperLimit ← StepLimit.fractionToBoundary tau upperSlack (Linear.neg upperStep)
  return Scalar.min lowerLimit upperLimit

/-- The largest of the scaled dual infeasibility, the primal
infeasibility and the scaled complementarity relative to `target`, all
in the maximum norm. -/
def scaledError (setting : Setting α) (target : α)
    (lower : 3 < bound := by exact of_decide_eq_true rfl) : Program α bound α := do
  let scaling := setting.state.current.errorScaling setting.options.multiplierThreshold
  let dual ← value (.dualInfeasibility .max) lower
  let primal ← value (.primalInfeasibility .current .max) (Nat.lt_of_succ_lt lower)
  let complementarity ← value (.complementarityNorm target .max) (Nat.lt_of_succ_lt lower)
  return Scalar.max (Scalar.max (dual / scaling.dual) primal)
    (complementarity / scaling.complementarity)

/-- The sum of all residuals relative to `target`, divided by their
number. -/
def averagedError (setting : Setting α) (target : α)
    (lower : 3 < bound := by exact of_decide_eq_true rfl) : Program α bound α := do
  let dims := setting.dims
  let count := dims.c + 2 * dims.s + dims.x + dims.boundCount
  let primal ← value (.primalInfeasibility .current .one) (Nat.lt_of_succ_lt lower)
  let dual ← value (.dualInfeasibility .one) lower
  let complementarity ← value (.complementarityNorm target .one) (Nat.lt_of_succ_lt lower)
  return (primal + dual + complementarity) / ((max count 1 : Nat) : α)

/-- The program that computes a quantity. -/
def formula (setting : Setting α) :
    {k : Kind} → (quantity : Quantity α k) → Program α quantity.rank (Carrier α k)
  | _, slack point family => do
    let iterate ← setting.state.iterateAt point
    let limits := setting.problem.limits family
    let selected ← limits.selection.select (iterate.primal family.block).entries
    let distances ← match family.side with
      | .lower => Linear.sub selected limits.values
      | .upper => Linear.sub limits.values selected
    let (corrected, count) ← Slack.safeguard setting.mu setting.options.boundMove distances
      limits.values (iterate.multipliers.get family).entries
    -- A vector that needed no correction is not worth a report.
    if 0 < count then tell (.safeguarded count family point)
    return corrected
  | _, objective point => do
    let iterate ← setting.state.iterateAt point
    tell (.evaluated .objective [iterate.x.tag])
    return setting.problem.callbacks.objective iterate.x.entries
  | _, objectiveGradient => do
    let x := setting.state.current.x
    tell (.evaluated .gradient [x.tag])
    let gradient := setting.problem.callbacks.gradient x.entries
    ensure "objective gradient length" setting.dims.x gradient.length
    return gradient
  | _, barrierObjective point => do
    let f ← value (.objective point)
    let slacks ← slacks point
    -- The objective has been asked for first, so its function is called even
    -- where the barrier term turns out to be undefined.
    let term ← barrierTerm setting slacks
    unless Scalar.isFinite term do tell (.degenerate term setting.mu)
    return f + term
  | _, barrierGradient .x => do
    let gradient ← value .objectiveGradient
    addBarrierGradient setting .x gradient
  | _, barrierGradient .s => addBarrierGradient setting .s (Linear.zeros setting.dims.s)
  | _, directionalDerivative => do
    let direction ← setting.state.requireDirection
    let xGradient ← value (.barrierGradient .x)
    let sGradient ← value (.barrierGradient .s)
    let xPart ← Linear.dot xGradient direction.x.entries
    let sPart ← Linear.dot sGradient direction.s.entries
    return xPart + sPart
  | _, constraint group point => do
    let iterate ← setting.state.iterateAt point
    tell (.evaluated (.constraint group) [iterate.x.tag])
    let values := setting.problem.callbacks.constraint group iterate.x.entries
    ensure (group.label ++ "(x) length") (setting.groupSize group) values.length
    return values
  | _, inequalityResidual point => do
    let iterate ← setting.state.iterateAt point
    let d ← value (.constraint .inequality point)
    Linear.sub d iterate.s.entries
  | _, jacobian group => do
    let x := setting.state.current.x
    tell (.evaluated (.jacobian group) [x.tag])
    let operator := setting.problem.callbacks.jacobian group x.entries
    ensure ("Jacobian of " ++ group.label) (setting.groupSize group) operator.rowCount
    ensure ("Jacobian of " ++ group.label) setting.dims.x operator.columns
    return operator
  | _, jacobianTimes group v => do
    let operator ← value (.jacobian group)
    Operator.mulVec operator v.entries
  | _, jacobianTransposeTimes group v => do
    let operator ← value (.jacobian group)
    Operator.transposeMulVec operator v.entries
  | _, constraintViolation point => do
    let c ← value (.constraint .equality point)
    let residual ← value (.inequalityResidual point)
    return setting.options.violationNorm.ofPair c residual
  | _, hessian => do
    let current := setting.state.current
    tell (.evaluated .hessian [current.x.tag, current.yC.tag, current.yD.tag])
    let matrix := setting.problem.callbacks.hessian current.x.entries 1 current.yC.entries
      current.yD.entries
    ensure "Hessian rows" setting.dims.x matrix.rowCount
    ensure "Hessian columns" setting.dims.x matrix.columns
    return matrix
  | _, lagrangianGradient .x => do
    let current := setting.state.current
    let gradient ← value .objectiveGradient
    let cTerm ← value (.jacobianTransposeTimes .equality current.yC)
    let gradient ← Linear.add gradient cTerm
    let dTerm ← value (.jacobianTransposeTimes .inequality current.yD)
    let gradient ← Linear.add gradient dTerm
    addMultiplierGradient setting .x gradient
  | _, lagrangianGradient .s =>
    addMultiplierGradient setting .s (Linear.neg setting.state.current.yD.entries)
  | _, complementarity family => do
    let slack ← value (.slack .current family)
    Linear.entrywiseMul slack (setting.state.current.multipliers.get family).entries
  | _, relaxedComplementarity family => do
    let products ← value (.complementarity family)
    return Linear.shift (-setting.mu) products
  | _, primalInfeasibility point norm => do
    let c ← value (.constraint .equality point)
    let residual ← value (.inequalityResidual point)
    return norm.ofPair c residual
  | _, dualInfeasibility norm => do
    let xGradient ← value (.lagrangianGradient .x)
    let sGradient ← value (.lagrangianGradient .s)
    return norm.ofPair xGradient sGradient
  | _, complementarityNorm target norm => do
    let products ← complementarities
    return norm.ofVectors (products.toList.map (Linear.shift (-target)))
  | _, centralityMeasure => do
    let products ← complementarities
    return centrality products.toList
  | _, problemError => scaledError setting 0
  | _, barrierError => scaledError setting setting.mu
  | _, meanError => averagedError setting 0
  | _, meanBarrierError => averagedError setting setting.mu
  | _, primalStepLimit tau xStep sStep => do
    let xLimit ← blockStepLimit setting .x tau xStep
    let sLimit ← blockStepLimit setting .s tau sStep
    return Scalar.min xLimit sLimit
  | _, dualStepLimit tau steps =>
    Family.all.foldlM (fun limit family => do
      let multiplier := setting.state.current.multipliers.get family
      let own ← StepLimit.fractionToBoundary tau multiplier.entries (steps.get family).entries
      return Scalar.min limit own) 1
  | _, slackStepLimit tau steps =>
    Family.all.foldlM (fun limit family => do
      let slack ← value (.slack .current family)
      let own ← StepLimit.fractionToBoundary tau slack (steps.get family).entries
      return Scalar.min limit own) 1
  | _, primalDualScaling block => do
    let bounds := setting.problem.bounds block
    let multipliers := setting.state.current.multipliers
    let lowerSlack ← value (.slack .current ⟨block, .lower⟩)
    let upperSlack ← value (.slack .current ⟨block, .upper⟩)
    let lowerRatio ←
      Linear.entrywiseDiv (multipliers.get ⟨block, .lower⟩).entries lowerSlack
    let scaling ←
      bounds.lower.selection.scatterAdd 1 lowerRatio (Linear.zeros (setting.blockSize block))
    let upperRatio ←
      Linear.entrywiseDiv (multipliers.get ⟨block, .upper⟩).entries upperSlack
    bounds.upper.selection.scatterAdd 1 upperRatio scaling
  | _, meanComplementarity point => do
    let iterate ← setting.state.iterateAt point
    let count := setting.dims.boundCount
    -- Without bounds no slack is asked for.
    if count = 0 then return 0
    let total ← Family.all.foldlM (fun total family => do
      let slack ← value (.slack point family)
      let product ← Linear.dot slack (iterate.multipliers.get family).entries
      return total + product) 0
    return total / (count : α)

end Quantity

end InteriorPoint
