import InteriorPoint.Bounds.Damping
import InteriorPoint.Options
import InteriorPoint.Quantity
import InteriorPoint.StepLimit

/-!
# `InteriorPoint.Quantity.Setting`: what quantities are computed from

A `Setting` gathers everything that determines the value of a quantity:
the problem, the state of the optimizer, the options and the damping
indicators. `Setting.key` is the key under which a value is stored. It
is computed from the setting alone, and a request that cannot be met
because an argument or a point does not fit is refused here, before any
cache is consulted.

A formula reads a number as it was given, with the sign of a zero. A key
drops that sign (`Key.number`), so values for both zeros are stored under
one key.
-/

set_option autoImplicit false

namespace InteriorPoint

/-- Everything that determines the values of the quantities. -/
structure Setting (α : Type) where
  problem : Problem α
  state : State α
  options : Options α
  /-- The damping indicators of the bounds. -/
  damping : PerFamily (List α)

namespace Setting

variable {α : Type}

/-- The sizes of the problem. -/
def dims (setting : Setting α) : Dimensions :=
  setting.state.dims

/-- The number of constraints of a group. -/
def groupSize (setting : Setting α) : Group → Nat
  | .equality => setting.dims.c
  | .inequality => setting.dims.s

/-- The number of variables of a block. -/
def blockSize (setting : Setting α) : Block → Nat
  | .x => setting.dims.x
  | .s => setting.dims.s

/-- Accepts one step per bound of each family. -/
def ensureStepSizes (setting : Setting α) (context : String)
    (steps : PerFamily (TaggedVector α)) : Checked α Unit :=
  Family.all.forM fun family =>
    ensureSize context (setting.dims.bounds.get family) (steps.get family).size

/-- The barrier parameter. -/
def mu (setting : Setting α) : α :=
  setting.state.mu

variable [Scalar α]

/-- The key of the current point as a whole. -/
def currentKey (setting : Setting α) : Key α :=
  .ofTags [setting.state.current.tag]

/-- The key of a Jacobian at the current point times a vector, which has
to have a given size. -/
def productKey (setting : Setting α) (context : String) (size : Nat) (v : TaggedVector α) :
    Checked α (Key α) := do
  ensureSize context size v.size
  return .ofTags [setting.state.current.x.tag, v.tag]

/-- The identities and parameters that the value of a quantity depends
on, or the reason why it has none. -/
def key (setting : Setting α) : {k : Kind} → Quantity α k → Checked α (Key α)
  | _, .slack point family => do
    let iterate ← setting.state.iterateAt point
    return Key.ofTags [(iterate.primal family.block).tag, (iterate.multipliers.get family).tag]
      |>.number setting.mu
  | _, .objective point | _, .constraint _ point => do
    let iterate ← setting.state.iterateAt point
    return .ofTags [iterate.x.tag]
  | _, .objectiveGradient | _, .jacobian _ => return .ofTags [setting.state.current.x.tag]
  -- The slacks of all families are involved, and with them every multiplier.
  | _, .barrierObjective point | _, .meanComplementarity point => do
    let iterate ← setting.state.iterateAt point
    return Key.ofTags [iterate.tag] |>.number setting.mu
  | _, .barrierGradient _ | _, .complementarity _ | _, .relaxedComplementarity _
  | _, .centralityMeasure | _, .problemError | _, .barrierError | _, .meanError
  | _, .meanBarrierError | _, .primalDualScaling _ =>
    return setting.currentKey.number setting.mu
  -- The gradient of the barrier function, along the direction as a whole.
  | _, .directionalDerivative => do
    let direction ← setting.state.requireDirection
    return setting.currentKey |>.tag direction.tag |>.number setting.mu
  | _, .inequalityResidual point => do
    let iterate ← setting.state.iterateAt point
    return .ofTags [iterate.x.tag, iterate.s.tag]
  | _, .jacobianTimes group v =>
    setting.productKey ("vector multiplied by J_" ++ group.label) setting.dims.x v
  | _, .jacobianTransposeTimes group v =>
    setting.productKey ("vector multiplied by J_" ++ group.label ++ "^T")
      (setting.groupSize group) v
  | _, .constraintViolation point => do
    let iterate ← setting.state.iterateAt point
    return Key.ofTags [iterate.x.tag, iterate.s.tag] |>.norm setting.options.violationNorm
  | _, .hessian =>
    let current := setting.state.current
    return .ofTags [current.x.tag, current.yC.tag, current.yD.tag]
  | _, .lagrangianGradient _ => return setting.currentKey
  | _, .primalInfeasibility point norm => do
    let iterate ← setting.state.iterateAt point
    return Key.ofTags [iterate.x.tag, iterate.s.tag] |>.norm norm
  | _, .dualInfeasibility norm => return setting.currentKey.norm norm
  | _, .complementarityNorm target norm =>
    return setting.currentKey |>.number setting.mu |>.number target |>.norm norm
  | _, .primalStepLimit tau xStep sStep => do
    StepLimit.ensureFraction tau
    ensureSize "delta_x length" setting.dims.x xStep.size
    ensureSize "delta_s length" setting.dims.s sStep.size
    return setting.currentKey |>.tag xStep.tag |>.tag sStep.tag |>.number setting.mu |>.number tau
  -- Without the barrier parameter, because no slack is involved.
  | _, .dualStepLimit tau steps => do
    StepLimit.ensureFraction tau
    setting.ensureStepSizes "bound multiplier step" steps
    return steps.toList.foldl (fun key step => key.tag step.tag) setting.currentKey
      |>.number tau
  | _, .slackStepLimit tau steps => do
    StepLimit.ensureFraction tau
    setting.ensureStepSizes "slack step" steps
    return steps.toList.foldl (fun key step => key.tag step.tag) setting.currentKey
      |>.number setting.mu |>.number tau

end Setting

end InteriorPoint
