import InteriorPoint.Engine.Memory

/-!
# `InteriorPoint.Engine`: answering questions about iterates

An `Engine` is set up for a problem, a state and options, and from then
on answers requests for quantities. Between requests the state, the
options and the functions of the problem may change. Every result is
kept under the identities of its inputs, so it is computed once and is
never given out for other inputs.

Each operation gives a `Reply`: its result, the engine afterwards and
the events on the way. Operations that create vectors or results draw
their identities from a `Supply`.
-/

set_option autoImplicit false

namespace InteriorPoint

/-- A problem with the state of its optimizer and everything that was
computed from them. -/
structure Engine (α : Type) where
  setting : Setting α
  store : Store α
  /-- How many slack entries were corrected since the last reset, by
  family. -/
  adjusted : PerFamily Nat

/-- The outcome of an operation on an engine. -/
structure Reply (α β : Type) where
  result : Checked α β
  /-- The engine after the operation. -/
  engine : Engine α
  /-- What happened on the way, in order. -/
  events : List (Event α)

/-- A request for a quantity, given either outright or through a
component of the state. -/
inductive Request (α : Type) : Kind → Type where
  /-- The quantity itself. -/
  | quantity {k : Kind} (quantity : Quantity α k) : Request α k
  /-- A transposed Jacobian times the current multipliers of its
  constraints. -/
  | jacobianTransposeTimesMultipliers (group : Group) : Request α .vector
  /-- The longest primal step along the search direction. -/
  | primalStepLimitAlongDirection (tau : α) : Request α .scalar
  /-- The longest dual step along the search direction. -/
  | dualStepLimitAlongDirection (tau : α) : Request α .scalar

/-- An operation on an engine. -/
inductive Action (α : Type) where
  /-- Asks for a quantity. -/
  | ask {k : Kind} (request : Request α k)
  /-- Changes the state of the optimizer. -/
  | change (change : State.Change α)
  /-- Replaces the options and drops all stored results. -/
  | setOptions (options : Options α)
  /-- Replaces the functions of the problem. Stored results stay. -/
  | setCallbacks (callbacks : Callbacks α)
  /-- Drops all stored results. -/
  | clearCaches
  /-- Starts counting corrected slacks anew. -/
  | resetAdjusted

namespace Request

variable {α : Type}

/-- The quantity that a request is for, if the components it mentions
are set. -/
def resolve (state : State α) : {k : Kind} → Request α k → Checked α (Quantity α k)
  | _, quantity q => .ok q
  | _, jacobianTransposeTimesMultipliers .equality =>
    .ok (.jacobianTransposeTimes .equality state.current.yC)
  | _, jacobianTransposeTimesMultipliers .inequality =>
    .ok (.jacobianTransposeTimes .inequality state.current.yD)
  | _, primalStepLimitAlongDirection tau => do
    let direction ← state.requireDirection
    return .primalStepLimit tau direction.x direction.s
  | _, dualStepLimitAlongDirection tau => do
    let direction ← state.requireDirection
    return .dualStepLimit tau direction.multipliers

end Request

namespace Engine

variable {α : Type} [Scalar α]

/-- Accepts a state whose sizes are those of the problem. -/
def ensureDimensions (expected found : Dimensions) : Checked α Unit := do
  ensureSize "state n_x" expected.x found.x
  ensureSize "state n_s" expected.s found.s
  ensureSize "state n_c" expected.c found.c
  Family.all.forM fun family =>
    ensureSize ("state " ++ family.label ++ " bounds") (expected.bounds.get family)
      (found.bounds.get family)

/-- An engine with nothing stored. -/
def new (problem : Problem α) (state : State α) (options : Options α) : Checked α (Engine α) := do
  options.validate
  ensureDimensions problem.dimensions state.dims
  return {
    setting :=
      { problem, state, options
        damping := dampingIndicators problem.xBounds problem.dBounds }
    store := {}
    adjusted := ⟨0, 0, 0, 0⟩ }

/-- The event that the engine was set up. -/
def setUp (engine : Engine α) : Event α :=
  .initialized engine.setting.state.dims engine.setting.options.dampingWeight

/-- Runs a computation on the memory of an engine. -/
def withMemory {β : Type} (engine : Engine α) (computation : Recall α β) :
    Drawing (Reply α β) := fun supply =>
  let (result, memory) :=
    computation.run { store := engine.store, adjusted := engine.adjusted, supply }
  ({ result
     engine := { engine with store := memory.store, adjusted := memory.adjusted }
     events := memory.events }, memory.supply)

/-- Answers a request. -/
def answer (engine : Engine α) {k : Kind} (request : Request α k) :
    Drawing (Reply α (Kept α k)) :=
  engine.withMemory do
    -- A request that cannot be resolved leaves no trace.
    let quantity ← request.resolve engine.setting.state
    Memory.evaluate engine.setting quantity

/-- Changes the state. If the change is refused the engine stays as it
is. -/
def changeState (engine : Engine α) (change : State.Change α) : Drawing (Reply α Unit) := do
  match ← (engine.setting.state.change change).run with
  | .ok state =>
    return {
      result := .ok ()
      engine := { engine with setting := { engine.setting with state } }
      events := match change with
        | .acceptTrial => [.accepted]
        | _ => [] }
  | .error error => return { result := .error error, engine, events := [] }

/-- Performs an operation. The value of a quantity that is asked for is
left out. -/
def perform (engine : Engine α) : Action α → Drawing (Reply α Unit)
  | .ask request => do
    let reply ← engine.answer request
    return { reply with result := reply.result.map fun _ => () }
  | .change change => engine.changeState change
  -- Of the options the keys mention only the norm, so nothing stored may
  -- outlive the others.
  | .setOptions options => return {
      result := options.validate
      engine := match (options.validate : Checked α Unit) with
        | .ok _ => { engine with setting := { engine.setting with options }, store := {} }
        | .error _ => engine
      events := [] }
  -- The keys do not mention the functions, and what was stored stays.
  | .setCallbacks callbacks => return {
      result := .ok ()
      engine := { engine with
        setting := { engine.setting with
          problem := { engine.setting.problem with callbacks } } }
      events := [] }
  | .clearCaches => return { result := .ok (), engine := { engine with store := {} }, events := [] }
  | .resetAdjusted => return {
      result := .ok ()
      engine := { engine with adjusted := ⟨0, 0, 0, 0⟩ }
      events := [] }

end Engine

end InteriorPoint
