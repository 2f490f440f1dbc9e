import InteriorPoint.Quantity

/-!
# `InteriorPoint.Quantity.Catalogue`: quantities by name

A quantity that takes no argument of its own can be asked for by the
name of its cache. `Catalogue.all` lists these quantities.
-/

set_option autoImplicit false

namespace InteriorPoint

/-- A quantity of any kind. -/
structure AnyQuantity (α : Type) where
  kind : Kind
  quantity : Quantity α kind

namespace Catalogue

variable {α : Type}

/-- Both points. -/
def points : List Point := [.current, .trial]

/-- Both blocks of variables. -/
def blocks : List Block := [.x, .s]

/-- Both groups of constraints. -/
def groups : List Group := [.equality, .inequality]

/-- The numbers that take no argument. -/
def scalars : List (Quantity α .scalar) :=
  (points.flatMap fun point =>
    [.objective point, .barrierObjective point, .constraintViolation point,
      .meanComplementarity point])
    ++ [.directionalDerivative, .centralityMeasure, .problemError, .barrierError, .meanError,
      .meanBarrierError]

/-- The vectors that take no argument. -/
def vectors : List (Quantity α .vector) :=
  (points.flatMap fun point =>
    .inequalityResidual point :: Family.all.map (.slack point)
      ++ groups.map fun group => .constraint group point)
    ++ (blocks.flatMap fun block =>
      [.barrierGradient block, .lagrangianGradient block, .primalDualScaling block])
    ++ (Family.all.flatMap fun family => [.complementarity family, .relaxedComplementarity family])
    ++ [.objectiveGradient]

/-- The matrices that take no argument. -/
def matrices : List (Quantity α .matrix) :=
  [.hessian]

/-- The linear maps that take no argument. -/
def operators : List (Quantity α .operator) :=
  groups.map .jacobian

/-- All quantities that take no argument. -/
def all : List (AnyQuantity α) :=
  scalars.map (⟨_, ·⟩) ++ vectors.map (⟨_, ·⟩) ++ matrices.map (⟨_, ·⟩)
    ++ operators.map (⟨_, ·⟩)

/-- The quantity with the given name, in which the case of letters is of
no account. -/
def find? (name : String) : Option (AnyQuantity α) :=
  all.find? fun any => any.quantity.slot.name.toLower = name.toLower

end Catalogue

end InteriorPoint
