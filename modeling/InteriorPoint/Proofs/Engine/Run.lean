import InteriorPoint.Proofs.Engine.Evaluation
import InteriorPoint.Proofs.State

/-!
# `InteriorPoint.Proofs.Engine.Run`: engines and their runs

`Performed` lists what an operation can do to an engine, and
`performed_perform` says that every operation does one of these things.
What is proved about operations below and in the modules that follow is
proved by cases over this list.

`Engine.Reachable` is every engine that can come about: set up for a
state that an optimizer can be in, and followed by any operations with
any arguments. `Engine.Run` is a sequence of operations with the events
on the way. The supplies from which the operations draw are arbitrary.

An engine stays such that it could be set up anew for its problem, its
state and its options (`Reachable.wellFormed`).
-/

set_option autoImplicit false

namespace InteriorPoint.Engine

variable {α : Type} [Scalar α]

/-- The memory in which a request starts. -/
def memory (engine : Engine α) (supply : Supply) : Memory α where
  store := engine.store
  adjusted := engine.adjusted
  supply := supply

/-- The engine with the memory that a request leaves. -/
def resume (engine : Engine α) (m : Memory α) : Engine α :=
  { engine with store := m.store, adjusted := m.adjusted }

/-- A request that mentions a component that is not set ends there. -/
theorem answer_of_refused {engine : Engine α} {k : Kind} {request : Request α k} {error : Error α}
    (h : request.resolve engine.setting.state = .error error) (supply : Supply) :
    engine.answer request supply = ({ result := .error error, engine, events := [] }, supply) := by
  simp only [answer, withMemory, Memory.run_bind, Memory.lift_run, h]

/-- Any other request is an evaluation in the memory of the engine. -/
theorem answer_of_resolved {engine : Engine α} {k : Kind} {request : Request α k}
    {quantity : Quantity α k} (h : request.resolve engine.setting.state = .ok quantity)
    (supply : Supply) :
    engine.answer request supply =
      let run := (Memory.evaluate engine.setting quantity).run (engine.memory supply)
      ({ result := run.1, engine := engine.resume run.2, events := run.2.events },
        run.2.supply) := by
  simp only [answer, withMemory, Memory.run_bind, Memory.lift_run, h]
  rfl

/-! ### Operations -/

/-- What an operation does to an engine, the events on the way, and the
supply afterwards. -/
inductive Performed (engine : Engine α) (supply : Supply) :
    Action α → Engine α → List (Event α) → Supply → Prop where
  /-- The operation was refused. -/
  | refused {action : Action α} {supply' : Supply} (hlater : supply.next ≤ supply'.next) :
      Performed engine supply action engine [] supply'
  /-- A quantity was evaluated. -/
  | answered {k : Kind} {request : Request α k} {quantity : Quantity α k}
      (hresolve : request.resolve engine.setting.state = .ok quantity) :
      Performed engine supply (.ask request)
        (engine.resume ((Memory.evaluate engine.setting quantity).run (engine.memory supply)).2)
        ((Memory.evaluate engine.setting quantity).run (engine.memory supply)).2.events
        ((Memory.evaluate engine.setting quantity).run (engine.memory supply)).2.supply
  /-- The state was changed. -/
  | changed {change : State.Change α} {state : State α} {events : List (Event α)} {supply' : Supply}
      (hchange : State.Changed engine.setting.state supply change state supply')
      (hevents : ∀ event ∈ events, event = .accepted) :
      Performed engine supply (.change change)
        { engine with setting := { engine.setting with state } } events supply'
  /-- The options were replaced. -/
  | options {options : Options α} (hoptions : options.validate = .ok ()) :
      Performed engine supply (.setOptions options)
        { engine with setting := { engine.setting with options }, store := {} } [] supply
  /-- The functions of the problem were replaced. -/
  | callbacks (callbacks : Callbacks α) :
      Performed engine supply (.setCallbacks callbacks)
        { engine with setting :=
            { engine.setting with problem := { engine.setting.problem with callbacks } } } [] supply
  | cleared : Performed engine supply .clearCaches { engine with store := {} } [] supply
  | reset :
      Performed engine supply .resetAdjusted { engine with adjusted := ⟨0, 0, 0, 0⟩ } [] supply

/-- What a change of the state that is refused leaves. -/
theorem changeState_of_refused {engine : Engine α} {change : State.Change α} {error : Error α}
    {supply supply' : Supply}
    (hrun : (engine.setting.state.change change).run supply = (.error error, supply')) :
    engine.changeState change supply
      = ({ result := .error error, engine, events := [] }, supply') := by
  simp only [changeState, bind, StateT.bind, hrun]
  rfl

/-- The events of a change that succeeds. -/
def changeEvents : State.Change α → List (Event α)
  | .acceptTrial => [.accepted]
  | _ => []

/-- What a change of the state that succeeds leaves. -/
theorem changeState_of_changed {engine : Engine α} {change : State.Change α} {state : State α}
    {supply supply' : Supply}
    (hrun : (engine.setting.state.change change).run supply = (.ok state, supply')) :
    engine.changeState change supply =
      ({ result := .ok ()
         engine := { engine with setting := { engine.setting with state } }
         events := changeEvents change }, supply') := by
  simp only [changeState, bind, StateT.bind, hrun]
  cases change <;> rfl

/-- Every operation does one of these things. -/
theorem performed_perform (engine : Engine α) (action : Action α) (supply : Supply) :
    Performed engine supply action (engine.perform action supply).1.engine
      (engine.perform action supply).1.events (engine.perform action supply).2 := by
  cases action with
  | ask request =>
      change Performed engine supply _ (engine.answer request supply).1.engine
        (engine.answer request supply).1.events (engine.answer request supply).2
      rcases hresolve : request.resolve engine.setting.state with error | quantity
      · -- A component that the request mentions is not set.
        rw [answer_of_refused hresolve]
        exact .refused (Nat.le_refl _)
      · rw [answer_of_resolved hresolve]
        exact .answered hresolve
  | change change =>
      change Performed engine supply _ (engine.changeState change supply).1.engine
        (engine.changeState change supply).1.events (engine.changeState change supply).2
      rcases hrun : (engine.setting.state.change change).run supply with ⟨error | state, supply'⟩
      · -- A change that is refused may have drawn identities before it was.
        have hforward := State.forward_change engine.setting.state change supply
        rw [hrun] at hforward
        rw [changeState_of_refused hrun]
        exact .refused hforward
      · rw [changeState_of_changed hrun]
        refine .changed (State.changed_of_run hrun) ?_
        cases change <;> simp [changeEvents]
  | setOptions options =>
      rcases hoptions : (options.validate : Checked α Unit) with error | _
      · simp only [perform, hoptions]
        exact .refused (Nat.le_refl _)
      · simp only [perform, hoptions]
        exact .options hoptions
  | setCallbacks callbacks => exact .callbacks callbacks
  | clearCaches => exact .cleared
  | resetAdjusted => exact .reset

/-- Asking for a quantity leaves the setting alone. -/
theorem setting_of_ask (engine : Engine α) {k : Kind} (request : Request α k) (supply : Supply) :
    (engine.perform (.ask request) supply).1.engine.setting = engine.setting :=
  rfl

/-- Accepting a trial point that is there succeeds. -/
theorem perform_acceptTrial {engine : Engine α} {iterate : Iterate α}
    (htrial : engine.setting.state.trial = some iterate) (supply : Supply) :
    (engine.perform (.change .acceptTrial) supply).1.engine =
      { engine with setting := { engine.setting with state :=
          { engine.setting.state with
            current := iterate, trial := none, direction := none
            iterations := engine.setting.state.iterations + 1 } } } := by
  have hrun : (engine.setting.state.change .acceptTrial).run supply =
      (.ok { engine.setting.state with
        current := iterate, trial := none, direction := none
        iterations := engine.setting.state.iterations + 1 }, supply) := by
    rw [State.change, State.iterateAt_trial_eq_ok.2 htrial]
    rfl
  change (engine.changeState .acceptTrial supply).1.engine = _
  rw [changeState_of_changed hrun]

/-! ### Engines that can come about -/

/-- The engines that can come about. -/
inductive Reachable : Engine α → Prop where
  | new {problem : Problem α} {state : State α} {options : Options α} {engine : Engine α}
      (hstate : state.Reachable) (hnew : Engine.new problem state options = .ok engine) :
      Reachable engine
  | perform {engine : Engine α} (h : Reachable engine) (action : Action α) (supply : Supply) :
      Reachable (engine.perform action supply).1.engine

/-- The same engine with nothing stored and nothing counted. -/
def fresh (engine : Engine α) : Engine α :=
  { engine with store := {}, adjusted := ⟨0, 0, 0, 0⟩ }

/-- An engine is set up if the options pass their checks and the state
fits the problem. -/
theorem new_eq_ok {problem : Problem α} {state : State α} {options : Options α}
    {engine : Engine α} :
    Engine.new problem state options = .ok engine
      ↔ (options.validate : Checked α Unit) = .ok ()
        ∧ (ensureDimensions problem.dimensions state.dims : Checked α Unit) = .ok ()
        ∧ engine =
          { setting :=
              { problem, state, options
                damping := dampingIndicators problem.xBounds problem.dBounds }
            store := {}
            adjusted := ⟨0, 0, 0, 0⟩ } := by
  simp only [Engine.new, Checked.bind_eq_ok, Checked.pure_eq_ok]
  constructor
  · rintro ⟨_, hoptions, _, hdims, rfl⟩
    exact ⟨hoptions, hdims, rfl⟩
  · rintro ⟨hoptions, hdims, rfl⟩
    exact ⟨(), hoptions, (), hdims, rfl⟩

/-- The state is valid, and the engine could be set up anew. -/
structure WellFormed (engine : Engine α) : Prop where
  valid : engine.setting.state.Valid
  new_eq_ok : Engine.new engine.setting.problem engine.setting.state engine.setting.options
    = .ok engine.fresh

/-- Whatever an engine does, it stays well-formed. -/
theorem Performed.wellFormed {engine engine' : Engine α} {supply supply' : Supply}
    {action : Action α} {events : List (Event α)}
    (h : Performed engine supply action engine' events supply') (hwell : engine.WellFormed) :
    engine'.WellFormed := by
  obtain ⟨hvalid, hnew⟩ := hwell
  obtain ⟨hoptions, hdims, hsame⟩ := Engine.new_eq_ok.1 hnew
  have hdamping : engine.setting.damping = dampingIndicators engine.setting.problem.xBounds
      engine.setting.problem.dBounds := congrArg (·.setting.damping) hsame
  -- The checks read the options and the dimensions; the damping follows from the bounds.
  cases h with
  | refused => exact ⟨hvalid, hnew⟩
  | answered => exact ⟨hvalid, hnew⟩
  | changed hchange =>
      refine ⟨hchange.valid hvalid, Engine.new_eq_ok.2 ⟨hoptions, ?_, ?_⟩⟩
      · rw [hchange.dims]
        exact hdims
      · rw [← hdamping]
        rfl
  | options hnewOptions =>
      refine ⟨hvalid, Engine.new_eq_ok.2 ⟨hnewOptions, hdims, ?_⟩⟩
      rw [← hdamping]
      rfl
  | callbacks callbacks =>
      refine ⟨hvalid, Engine.new_eq_ok.2 ⟨hoptions, hdims, ?_⟩⟩
      rw [← hdamping]
      rfl
  | cleared => exact ⟨hvalid, hnew⟩
  | reset => exact ⟨hvalid, hnew⟩

/-- Every engine that can come about is well-formed. -/
theorem Reachable.wellFormed {engine : Engine α} (h : engine.Reachable) : engine.WellFormed := by
  induction h with
  | new hstate hnew =>
      obtain ⟨hoptions, hdims, rfl⟩ := Engine.new_eq_ok.1 hnew
      exact ⟨hstate.valid, hnew⟩
  | perform _ action supply ih => exact (performed_perform _ action supply).wellFormed ih

/-- A new barrier parameter is checked before it is set. -/
theorem Performed.ensureMu {engine engine' : Engine α} {supply supply' : Supply} {action : Action α}
    {events : List (Event α)} (h : Performed engine supply action engine' events supply')
    (hmu : State.ensureMu engine.setting.state.mu = .ok ()) :
    State.ensureMu engine'.setting.state.mu = .ok () := by
  cases h with
  | changed hchange => exact hchange.ensureMu hmu
  | _ => exact hmu

/-- The barrier parameter of an engine has passed the check. -/
theorem Reachable.ensureMu {engine : Engine α} (h : engine.Reachable) :
    State.ensureMu engine.setting.state.mu = .ok () := by
  induction h with
  | new hstate hnew =>
      obtain ⟨-, -, rfl⟩ := Engine.new_eq_ok.1 hnew
      exact hstate.ensureMu
  | perform _ action supply ih => exact (performed_perform _ action supply).ensureMu ih

/-! ### Runs -/

/-- One operation after another, with the events on the way. -/
inductive Run : Engine α → List (Action α) → List (Event α) → Engine α → Prop where
  | nil (engine : Engine α) : Run engine [] [] engine
  | cons {engine engine' : Engine α} (action : Action α) (supply : Supply) {rest : List (Action α)}
      {events : List (Event α)}
      (h : Run (engine.perform action supply).1.engine rest events engine') :
      Run engine (action :: rest) ((engine.perform action supply).1.events ++ events) engine'

/-- A run of two lists of operations is a run of the second after a run
of the first. -/
theorem Run.split {engine engine' : Engine α} {first second : List (Action α)}
    {events : List (Event α)} (h : Run engine (first ++ second) events engine') :
    ∃ middle before after, Run engine first before middle ∧ Run middle second after engine'
      ∧ events = before ++ after := by
  -- On the first list; its operations are peeled off one by one.
  induction first generalizing engine events with
  | nil => exact ⟨engine, [], events, .nil engine, h, rfl⟩
  | cons action first ih =>
      cases h with
      | cons _ supply hrest =>
          obtain ⟨middle, before, after, hfirst, hsecond, rfl⟩ := ih hrest
          exact ⟨middle, _, after, .cons action supply hfirst, hsecond,
            (List.append_assoc _ _ _).symm⟩

end InteriorPoint.Engine
