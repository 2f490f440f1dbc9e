import InteriorPoint.Iterate

/-!
# `InteriorPoint.State`: the points an optimizer works with

The state of an optimizer holds the current point, a trial point and a
search direction if there are any, and the barrier parameter `mu`. It is
changed by the operations listed in `State.Change`. Each of them either
gives a new state or a refusal, and a refusal leaves the old state as it
was.
-/

set_option autoImplicit false

namespace InteriorPoint

/-- Which of the two points a quantity is evaluated at. -/
inductive Point where
  | current
  | trial
deriving DecidableEq, Repr

/-- The points and the barrier parameter of an optimizer. -/
structure State (α : Type) where
  dims : Dimensions
  current : Iterate α
  trial : Option (Iterate α)
  direction : Option (Iterate α)
  /-- The barrier parameter. -/
  mu : α
  /-- How many trial points were accepted. -/
  iterations : Nat
deriving DecidableEq, Repr

namespace State

variable {α : Type}

/-- The point of a state, the trial point if it has been set. -/
def iterateAt (state : State α) : Point → Checked α (Iterate α)
  | .current => .ok state.current
  | .trial =>
    match state.trial with
    | some trial => .ok trial
    | none => .error (.missingComponent "trial iterate")

/-- The search direction, if it has been set. -/
def requireDirection (state : State α) : Checked α (Iterate α) :=
  match state.direction with
  | some direction => .ok direction
  | none => .error (.missingComponent "search direction")

/-- An operation on a state. -/
inductive Change (α : Type) where
  /-- Sets the barrier parameter. -/
  | mu (value : α)
  /-- Sets the trial point. -/
  | trial (iterate : Iterate α)
  /-- Sets the search direction. -/
  | direction (iterate : Iterate α)
  /-- Sets the trial point to one reached along the search direction. -/
  | trialFromStep (primal dual : α)
  /-- Makes the trial point the current one. -/
  | acceptTrial

variable [Scalar α]

/-- Accepts a finite barrier parameter that is not negative. -/
def ensureMu (mu : α) : Checked α Unit :=
  if Scalar.isFinite mu ∧ 0 ≤ mu then .ok () else .error (.invalidParameter "mu" mu "[0, inf)")

/-- The state at the start of an optimization. -/
def start (dims : Dimensions) (initial : Iterate α) (mu : α) : Checked α (State α) := do
  initial.validate dims
  ensureMu mu
  return { dims, current := initial, trial := none, direction := none, mu, iterations := 0 }

/-- The state after an operation. Accepting the trial point drops the
search direction, which has been used up. -/
def change (state : State α) : Change α → ExceptT (Error α) Drawing (State α)
  | .mu value => do
    ensureMu value
    return { state with mu := value }
  | .trial iterate => do
    iterate.validate state.dims
    return { state with trial := some iterate }
  | .direction iterate => do
    iterate.validate state.dims
    return { state with direction := some iterate }
  | .trialFromStep primal dual => do
    let direction ← state.requireDirection
    let trial ← state.current.takeStep primal dual direction
    return { state with trial := some trial }
  | .acceptTrial => do
    let trial ← state.iterateAt .trial
    return { state with
      current := trial, trial := none, direction := none, iterations := state.iterations + 1 }

end State

end InteriorPoint
