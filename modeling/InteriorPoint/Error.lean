/-!
# `InteriorPoint.Error`: why a request is refused

One inductive type of causes for the whole library and one function
that words them. Numbers inside a cause stay numbers; the wording takes
the function that writes them, so the causes do not depend on a number
format.

The last cause, `misaligned`, differs from the others. It is reported
by an elementary vector operation whose operands do not fit together,
at the place where the sizes were taken for granted. Data that went
through the checking constructors never meets it.
-/

set_option autoImplicit false

namespace InteriorPoint

/-- Why an operation gives no result. -/
inductive Error (α : Type) where
  /-- A vector or matrix has another size than `context` requires. -/
  | dimensionMismatch (context : String) (expected found : Nat)
  /-- A selection of coordinates holds an index that is out of range or
  out of order. -/
  | invalidSelection (context : String) (index dim : Nat)
  /-- A lower bound above the upper bound of the same coordinate. -/
  | crossedBounds (index : Nat) (lower upper : α)
  /-- An option outside its admissible range. -/
  | invalidOption (name : String) (value : α) (reason : String)
  /-- A parameter of a single call outside its admissible range. -/
  | invalidParameter (name : String) (value : α) (admissible : String)
  /-- An iterate or direction that has not been set. -/
  | missingComponent (component : String)
  /-- A text that names no value of `context`. -/
  | unrecognized (context : String) (value : String)
  /-- Operands of an elementary operation that do not fit together. -/
  | misaligned
deriving DecidableEq, Repr

/-- A result that may be refused. -/
abbrev Checked (α β : Type) : Type :=
  Except (Error α) β

namespace Error

variable {α : Type}

/-- The wording of a cause, with numbers written by `write`. -/
def message (write : α → String) : Error α → String
  | dimensionMismatch context expected found =>
    "dimension mismatch in " ++ context ++ ": expected " ++ toString expected
      ++ " but found " ++ toString found
  | invalidSelection context index dim =>
    "invalid bound selection in " ++ context ++ ": index " ++ toString index
      ++ " for dimension " ++ toString dim
  | crossedBounds index lower upper =>
    "lower bound " ++ write lower ++ " exceeds upper bound " ++ write upper
      ++ " at index " ++ toString index
  | invalidOption name value reason =>
    "option `" ++ name ++ "` = " ++ write value ++ " is invalid: " ++ reason
  | invalidParameter name value admissible =>
    "parameter `" ++ name ++ "` = " ++ write value ++ " is outside of " ++ admissible
  | missingComponent component =>
    component ++ " must be set before it can be used"
  | unrecognized context value =>
    "unrecognized value `" ++ value ++ "` for " ++ context
  | misaligned =>
    "the operands of a vector operation do not fit together"

end Error

/-- Accepts exactly the expected size. -/
def ensureSize {α : Type} (context : String) (expected found : Nat) : Checked α Unit :=
  if expected = found then .ok ()
  else .error (.dimensionMismatch context expected found)

end InteriorPoint
