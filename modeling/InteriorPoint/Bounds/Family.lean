/-!
# `InteriorPoint.Bounds.Family`: the four families of bounds

Both blocks of primal variables, `x` and the slack variables `s` of the
inequalities, may be bounded below and above. That gives four families
of bounds, each with its own slacks and multipliers. `PerFamily` holds
one value for each of them.
-/

set_option autoImplicit false

namespace InteriorPoint

/-- A block of primal variables. -/
inductive Block where
  /-- The variables of the problem. -/
  | x
  /-- The slack variables of the inequalities. -/
  | s
deriving DecidableEq, Repr

/-- The letter of the block. -/
def Block.label : Block → String
  | .x => "x"
  | .s => "s"

/-- The side on which a variable is bounded. -/
inductive Side where
  | lower
  | upper
deriving DecidableEq, Repr

/-- A family of bounds: the bounds on one side of one block. -/
structure Family where
  block : Block
  side : Side
deriving DecidableEq, Repr

namespace Family

/-- Lower bounds on `x`. -/
def xLower : Family := ⟨.x, .lower⟩

/-- Upper bounds on `x`. -/
def xUpper : Family := ⟨.x, .upper⟩

/-- Lower bounds on `s`. -/
def sLower : Family := ⟨.s, .lower⟩

/-- Upper bounds on `s`. -/
def sUpper : Family := ⟨.s, .upper⟩

/-- The families in the order in which they are processed. -/
def all : List Family :=
  [xLower, xUpper, sLower, sUpper]

/-- There is no other family. -/
theorem mem_all (family : Family) : family ∈ all := by
  rcases family with ⟨_ | _, _ | _⟩ <;> decide

/-- The name of the family in messages. -/
def label : Family → String
  | ⟨.x, .lower⟩ => "x_L"
  | ⟨.x, .upper⟩ => "x_U"
  | ⟨.s, .lower⟩ => "s_L"
  | ⟨.s, .upper⟩ => "s_U"

end Family

/-- One value for each family. -/
structure PerFamily (β : Type) where
  xLower : β
  xUpper : β
  sLower : β
  sUpper : β
deriving DecidableEq, Repr

namespace PerFamily

variable {β γ : Type}

/-- The value of one family. -/
def get (values : PerFamily β) : Family → β
  | ⟨.x, .lower⟩ => values.xLower
  | ⟨.x, .upper⟩ => values.xUpper
  | ⟨.s, .lower⟩ => values.sLower
  | ⟨.s, .upper⟩ => values.sUpper

/-- The values given by a function. -/
def ofFn (value : Family → β) : PerFamily β :=
  ⟨value .xLower, value .xUpper, value .sLower, value .sUpper⟩

/-- The values in the order of `Family.all`. -/
def toList (values : PerFamily β) : List β :=
  [values.xLower, values.xUpper, values.sLower, values.sUpper]

/-- The values with that of one family replaced by its image. -/
def modify (values : PerFamily β) (family : Family) (change : β → β) : PerFamily β :=
  ofFn fun other => if other = family then change (values.get other) else values.get other

/-- A computation for each family, in the order of `Family.all`. -/
def ofFnM {m : Type → Type} [Monad m] (value : Family → m β) : m (PerFamily β) := do
  let xLower ← value .xLower
  let xUpper ← value .xUpper
  let sLower ← value .sLower
  let sUpper ← value .sUpper
  return ⟨xLower, xUpper, sLower, sUpper⟩

end PerFamily

end InteriorPoint
