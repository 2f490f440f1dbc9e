import InteriorPoint.Bounds.Family
import InteriorPoint.Identity
import InteriorPoint.Linear.Vector

/-!
# `InteriorPoint.Iterate`: primal-dual points

An iterate holds the primal variables `x` and `s`, the multipliers of
the equalities and inequalities, and one bound multiplier per family.
Search directions have the same layout, every component read as a step.

An iterate is never changed. Moving along a direction
(`Iterate.takeStep`) gives a new one, in which a component whose step
length is zero is the very same vector as before, so that everything
computed from it alone stays valid.
-/

set_option autoImplicit false

namespace InteriorPoint

/-- The sizes of a problem. The inequalities have as many multipliers
as there are slack variables. -/
structure Dimensions where
  /-- Variables. -/
  x : Nat
  /-- Inequalities, and slack variables. -/
  s : Nat
  /-- Equalities. -/
  c : Nat
  /-- Bounds of each family. -/
  bounds : PerFamily Nat
deriving DecidableEq, Repr

/-- A component of an iterate. -/
inductive Component where
  | x
  | s
  /-- Multipliers of the equalities. -/
  | yC
  /-- Multipliers of the inequalities. -/
  | yD
  /-- Multipliers of a family of bounds. -/
  | multiplier (family : Family)
deriving DecidableEq, Repr

namespace Component

/-- The components in the order in which they are checked. -/
def all : List Component :=
  [x, s, yC, yD] ++ Family.all.map multiplier

/-- What a component is called where its size is refused. -/
def sizeContext : Component → String
  | x => "x length"
  | s => "s length"
  | yC => "y_c length"
  | yD => "y_d length"
  | multiplier ⟨.x, .lower⟩ => "z_L length"
  | multiplier ⟨.x, .upper⟩ => "z_U length"
  | multiplier ⟨.s, .lower⟩ => "v_L length"
  | multiplier ⟨.s, .upper⟩ => "v_U length"

end Component

namespace Dimensions

/-- The number of bounds, which is the number of complementarity
pairs. -/
def boundCount (dims : Dimensions) : Nat :=
  dims.bounds.xLower + dims.bounds.xUpper + dims.bounds.sLower + dims.bounds.sUpper

/-- The number of multipliers of all kinds. -/
def multiplierCount (dims : Dimensions) : Nat :=
  dims.c + dims.s + dims.boundCount

/-- The size of each component of an iterate. -/
def size (dims : Dimensions) : Component → Nat
  | .x => dims.x
  | .s => dims.s
  | .yC => dims.c
  | .yD => dims.s
  | .multiplier family => dims.bounds.get family

end Dimensions

/-- A primal-dual point, or a direction. -/
structure Iterate (α : Type) where
  /-- Identity of the point as a whole. -/
  tag : Tag
  x : TaggedVector α
  s : TaggedVector α
  yC : TaggedVector α
  yD : TaggedVector α
  multipliers : PerFamily (TaggedVector α)
deriving DecidableEq, Repr

namespace Iterate

variable {α : Type}

/-- A component of the point. -/
def component (iterate : Iterate α) : Component → TaggedVector α
  | .x => iterate.x
  | .s => iterate.s
  | .yC => iterate.yC
  | .yD => iterate.yD
  | .multiplier family => iterate.multipliers.get family

/-- The primal variables of a block. -/
def primal (iterate : Iterate α) : Block → TaggedVector α
  | .x => iterate.x
  | .s => iterate.s

/-- Accepts an iterate whose components all have the prescribed size.
The first that does not is reported. -/
def validate (dims : Dimensions) (iterate : Iterate α) : Checked α Unit :=
  Component.all.forM fun part =>
    ensureSize part.sizeContext (dims.size part) (iterate.component part).size

/-- The sizes that a direction must have to move this point. -/
def dimensions (iterate : Iterate α) : Dimensions where
  x := iterate.x.size
  s := iterate.s.size
  c := iterate.yC.size
  bounds := .ofFn fun family => (iterate.multipliers.get family).size

variable [Scalar α]

/-- A component moved by `alpha` along a step. With step length zero it
stays the same vector; otherwise it has a new identity. -/
def moveComponent (alpha : α) (base step : TaggedVector α) :
    ExceptT (Error α) Drawing (TaggedVector α) :=
  if Scalar.IsZero alpha then return base
  else do
    let entries ← Linear.moveAlong base.entries alpha step.entries
    TaggedVector.ofList entries

/-- The point reached by moving the primal variables by `primal` and all
multipliers by `dual` along a direction of the same sizes. -/
def takeStep (iterate : Iterate α) (primal dual : α) (direction : Iterate α) :
    ExceptT (Error α) Drawing (Iterate α) := do
  direction.validate iterate.dimensions
  -- No component can be refused from here on: the sizes have been compared.
  let tag ← Tag.fresh
  let x ← moveComponent primal iterate.x direction.x
  let s ← moveComponent primal iterate.s direction.s
  let yC ← moveComponent dual iterate.yC direction.yC
  let yD ← moveComponent dual iterate.yD direction.yD
  let multipliers ← PerFamily.ofFnM fun family =>
    moveComponent dual (iterate.multipliers.get family) (direction.multipliers.get family)
  return { tag, x, s, yC, yD, multipliers }

end Iterate

/-- An iterate in the making: the primal variables, and those
multipliers that are given. -/
structure IterateDraft (α : Type) where
  x : TaggedVector α
  s : TaggedVector α
  yC : Option (TaggedVector α)
  yD : Option (TaggedVector α)
  multipliers : PerFamily (Option (TaggedVector α))

namespace IterateDraft

variable {α : Type}

/-- A draft without multipliers. -/
def ofPrimal (x s : TaggedVector α) : IterateDraft α :=
  { x, s, yC := none, yD := none, multipliers := ⟨none, none, none, none⟩ }

variable [Scalar α]

/-- The given vector, or zeros. -/
def orZeros (given : Option (TaggedVector α)) (size : Nat) : Drawing (TaggedVector α) :=
  match given with
  | some v => return v
  | none => TaggedVector.zeros size

/-- Completes a draft with zero multipliers and checks every size. -/
def build (dims : Dimensions) (draft : IterateDraft α) : ExceptT (Error α) Drawing (Iterate α) := do
  let tag ← Tag.fresh
  let yC ← orZeros draft.yC dims.c
  let yD ← orZeros draft.yD dims.s
  let multipliers ← PerFamily.ofFnM fun family =>
    orZeros (draft.multipliers.get family) (dims.bounds.get family)
  let iterate := { tag, x := draft.x, s := draft.s, yC, yD, multipliers : Iterate α }
  iterate.validate dims
  return iterate

end IterateDraft

end InteriorPoint
