import InteriorPoint.Proofs.Session

/-!
# `InteriorPoint.Proofs.State.InPlace`: a state that is written in place

`State.change` answers with a new state or with a refusal, so a refused
operation cannot leave half of its work behind. An optimizer owns one
state and writes to its fields one after the other, and then this is a
property of the order in which each operation checks and writes.
`State.update` is that program. It takes the trial point out of the state
before it knows whether there is one, and it writes the fields of an
accepted point one by one.

`run_update` states what it amounts to: the new state of `State.change`
if that is not refused, and the old state otherwise.

`State.WellFormed` is the invariant of all states between two
operations. The operations of a run may be refused, and the run goes on
after a refusal (`State.updateAll`). The invariant counts the acceptances
that were not refused, and `wellFormed_updateAll` is the induction over
the run. It also pays for the last gap: moving along a direction compares
sizes, and in a well-formed state this comparison cannot fail.
-/

set_option autoImplicit false

namespace InteriorPoint.State

open Drawing (run_bind)

variable {α : Type}

/-- Operations that write to a state as they go, and that may end in a
refusal at any place. -/
abbrev InPlace (α β : Type) : Type :=
  ExceptT (Error α) (StateT (State α) Drawing) β

namespace InPlace

/-- Computes from the state without writing to it. -/
def consult {β : Type} (compute : State α → ExceptT (Error α) Drawing β) : InPlace α β :=
  ExceptT.mk fun state => do
    return (← (compute state).run, state)

/-- Writes to the state. -/
def write (f : State α → State α) : InPlace α Unit :=
  modify f

/-- Takes the trial point out of the state. -/
def takeTrial : InPlace α (Iterate α) := do
  let trial ← consult fun state => return state.trial
  write fun state => { state with trial := none }
  match trial with
  | some trial => return trial
  | none => throw (.missingComponent "trial iterate")

end InPlace

open InPlace

variable [Scalar α]

/-- An operation on a state, written field by field. -/
def update : Change α → InPlace α Unit
  | .mu value => do
    consult fun _ => liftM (ensureMu value)
    write fun state => { state with mu := value }
  | .trial iterate => do
    consult fun state => liftM (iterate.validate state.dims)
    write fun state => { state with trial := some iterate }
  | .direction iterate => do
    consult fun state => liftM (iterate.validate state.dims)
    write fun state => { state with direction := some iterate }
  | .trialFromStep primal dual => do
    let direction ← consult fun state => liftM state.requireDirection
    let trial ← consult fun state => state.current.takeStep primal dual direction
    write fun state => { state with trial := some trial }
  | .acceptTrial => do
    let trial ← takeTrial
    write fun state => { state with current := trial }
    write fun state => { state with direction := none }
    write fun state => { state with iterations := state.iterations + 1 }

/-- Operations one after the other, with the outcome of each. A refusal
does not end the run. -/
def updateAll (changes : List (Change α)) :
    StateT (State α) Drawing (List (Except (Error α) Unit)) :=
  changes.mapM fun change => (update change).run

/-! ### One operation -/

/-- The state in which an operation ends: the new one, or the one it
started from. -/
def settle (state : State α) : Except (Error α) (State α) → Except (Error α) Unit × State α
  | .ok state' => (.ok (), state')
  | .error error => (.error error, state)

section
omit [Scalar α]

/-- Reading either refuses, or goes on in the same state. -/
theorem run_consult_bind {β γ : Type} (compute : State α → ExceptT (Error α) Drawing β)
    (next : β → InPlace α γ) (state : State α) (supply : Supply) :
    (consult compute >>= next).run.run state supply
      = match (compute state).run supply with
        | (.ok value, supply') => (next value).run.run state supply'
        | (.error error, supply') => ((.error error, state), supply') := by
  change (ExceptT.bindCont next ((compute state).run supply).1).run state
    ((compute state).run supply).2 = _
  rcases (compute state).run supply with ⟨error | value, supply'⟩ <;> rfl

/-- An operation that checks everything before its only write leaves the
state as it was if it is refused. -/
theorem run_consult_write {β : Type} (compute : State α → ExceptT (Error α) Drawing β)
    (f : β → State α → State α) (state : State α) (supply : Supply) :
    (consult compute >>= fun value => write (f value)).run.run state supply
      = (state.settle ((compute state >>= fun value => pure (f value state)).run supply).1,
          ((compute state >>= fun value => pure (f value state)).run supply).2) := by
  rw [run_consult_bind, run_bind]
  rcases (compute state).run supply with ⟨error | value, supply'⟩ <;> rfl

end

/-- Written in place, an operation leaves the state of `State.change`, or
the old state if that is refused. -/
theorem run_update (change : Change α) (state : State α) (supply : Supply) :
    (update change).run.run state supply
      = (state.settle ((state.change change).run supply).1,
          ((state.change change).run supply).2) := by
  cases change with
  | mu value => exact run_consult_write _ (fun _ state => { state with mu := value }) state supply
  | trial iterate =>
      exact run_consult_write _ (fun _ state => { state with trial := some iterate }) state supply
  | direction iterate =>
      exact run_consult_write _ (fun _ state => { state with direction := some iterate }) state
        supply
  -- It reads twice before it writes, first the direction and then the sizes.
  | trialFromStep primal dual =>
      rw [update, State.change, run_consult_bind, run_bind]
      cases hdirection : state.requireDirection with
      | ok direction =>
          exact run_consult_write (fun state => state.current.takeStep primal dual direction)
            (fun trial state => { state with trial := some trial }) state supply
      | error error => rfl
  | acceptTrial =>
      -- The trial point is taken out first. If there is none, nothing was taken.
      obtain ⟨dims, current, trial, direction, mu, iterations⟩ := state
      cases trial with
      | some trial => rfl
      | none => rfl

/-- An operation that is not refused has done what `Changed` lists; one
that is refused has done nothing. -/
theorem changed_or_refused {change : Change α} {outcome : Except (Error α) Unit}
    {state state' : State α} {supply supply' : Supply}
    (hrun : (update change).run.run state supply = ((outcome, state'), supply')) :
    (outcome = .ok () ∧ Changed state supply change state' supply')
      ∨ (∃ error, outcome = .error error) ∧ state' = state := by
  rw [run_update] at hrun
  -- Both outcomes are those of `State.change`.
  rcases hchange : (state.change change).run supply with ⟨error | next, later⟩ <;>
    rw [hchange] at hrun <;> cases hrun
  · exact Or.inr ⟨⟨error, rfl⟩, rfl⟩
  · exact Or.inl ⟨rfl, changed_of_run hchange⟩

/-- What an operation may do to a state, by its outcome. -/
structure Respects (state : State α) (change : Change α) (outcome : Except (Error α) Unit)
    (state' : State α) : Prop where
  refused : ∀ error, outcome = .error error → state' = state
  /-- Reaching a trial point along the direction touches neither the
  current point nor the direction. -/
  step : ∀ primal dual, change = .trialFromStep primal dual →
    state'.current = state.current ∧ state'.direction = state.direction
  /-- The only thing that can be missing for it is the direction. -/
  step_refused : ∀ primal dual, change = .trialFromStep primal dual →
    ∀ error, outcome = .error error
      ↔ state.direction = none ∧ error = .missingComponent "search direction"
  accepted : change = .acceptTrial → outcome = .ok () →
    state.trial = some state'.current ∧ state'.trial = none ∧ state'.direction = none

/-- Without a direction no trial point can be reached along it. -/
theorem run_update_trialFromStep_of_none {state : State α} (hdirection : state.direction = none)
    (primal dual : α) (supply : Supply) :
    (update (.trialFromStep primal dual)).run.run state supply
      = ((.error (.missingComponent "search direction"), state), supply) := by
  have hrequire : state.requireDirection = .error (.missingComponent "search direction") := by
    rw [requireDirection, hdirection]
  rw [update, run_consult_bind, hrequire]
  rfl

/-- In a state whose sizes agree an operation does no more than it may. -/
theorem Valid.respects {state state' : State α} (hvalid : state.Valid) {change : Change α}
    {outcome : Except (Error α) Unit} {supply supply' : Supply}
    (hrun : (update change).run.run state supply = ((outcome, state'), supply')) :
    state.Respects change outcome state' := by
  have hcases := changed_or_refused hrun
  constructor
  case refused =>
    rintro error rfl
    rcases hcases with ⟨⟨⟩, -⟩ | ⟨-, rfl⟩
    rfl
  case step =>
    rintro primal dual rfl
    rcases hcases with ⟨-, hchanged⟩ | ⟨-, rfl⟩
    · cases hchanged
      exact ⟨rfl, rfl⟩
    · exact ⟨rfl, rfl⟩
  case step_refused =>
    rintro primal dual rfl error
    cases hdirection : state.direction with
    -- The missing direction is reported before anything else.
    | none =>
        rw [run_update_trialFromStep_of_none hdirection] at hrun
        cases hrun
        simp [eq_comm]
    | some direction =>
        -- The sizes agree, so nothing is left that could refuse the step.
        obtain ⟨_, _, -, hstep⟩ := hvalid.exists_trialFromStep hdirection primal dual supply
        rw [run_update, hstep] at hrun
        cases hrun
        simp
  case accepted =>
    rintro rfl rfl
    rcases hcases with ⟨-, hchanged⟩ | ⟨⟨_, ⟨⟩⟩, -⟩
    cases hchanged with
    | acceptTrial htrial => exact ⟨htrial, rfl, rfl⟩

/-! ### Many operations -/

/-- How many of the operations were acceptances that were not refused. -/
def acceptances (changes : List (Change α)) (outcomes : List (Except (Error α) Unit)) : Nat :=
  (changes.zip outcomes).countP fun
    | (.acceptTrial, .ok ()) => true
    | _ => false

/-- A state of an optimizer that has the sizes `dims` and accepted
`accepted` trial points. -/
structure WellFormed (dims : Dimensions) (accepted : Nat) (state : State α) : Prop where
  dims_eq : state.dims = dims
  current : state.current.Fits dims
  trial : ∀ iterate, state.trial = some iterate → iterate.Fits dims
  direction : ∀ iterate, state.direction = some iterate → iterate.Fits dims
  mu_finite : Scalar.isFinite state.mu = true
  mu_nonneg : 0 ≤ state.mu
  iterations : state.iterations = accepted

/-- In a well-formed state all sizes agree. -/
theorem WellFormed.valid {dims : Dimensions} {accepted : Nat} {state : State α}
    (h : state.WellFormed dims accepted) : state.Valid := by
  obtain ⟨rfl, hcurrent, htrial, hdirection, -⟩ := h
  exact ⟨hcurrent, htrial, hdirection⟩

/-- A valid state with an acceptable barrier parameter is well formed for
its own sizes and count. -/
theorem WellFormed.of_valid {state : State α} (hvalid : state.Valid)
    (hmu : ensureMu state.mu = .ok ()) : state.WellFormed state.dims state.iterations :=
  ⟨rfl, hvalid.current, hvalid.trial, hvalid.direction, (ensureMu_eq_ok.1 hmu).1,
    (ensureMu_eq_ok.1 hmu).2, rfl⟩

/-- The count goes up by one for an acceptance, and stays otherwise. -/
theorem Changed.iterations {state state' : State α} {change : Change α} {supply supply' : Supply}
    (h : Changed state supply change state' supply') :
    state'.iterations = state.iterations + acceptances [change] [.ok ()] := by
  cases h <;> rfl

/-- A state at the start of an optimization is well formed, with nothing
accepted. -/
theorem start_wellFormed {dims : Dimensions} {initial : Iterate α} {mu : α} {state : State α}
    (hstart : State.start dims initial mu = .ok state) : state.WellFormed dims 0 := by
  have hwell := WellFormed.of_valid (start_valid hstart) (Reachable.start hstart).ensureMu
  simp only [State.start, Checked.bind_eq_ok, Checked.pure_eq_ok] at hstart
  obtain ⟨_, -, _, -, rfl⟩ := hstart
  exact hwell

/-- The step: one more operation, refused or not. -/
theorem WellFormed.update {dims : Dimensions} {accepted : Nat} {state state' : State α}
    (h : state.WellFormed dims accepted) {change : Change α} {outcome : Except (Error α) Unit}
    {supply supply' : Supply}
    (hrun : (State.update change).run.run state supply = ((outcome, state'), supply')) :
    state'.WellFormed dims (accepted + acceptances [change] [outcome]) := by
  rcases changed_or_refused hrun with ⟨rfl, hchanged⟩ | ⟨⟨error, rfl⟩, rfl⟩
  · have hmu := hchanged.ensureMu (ensureMu_eq_ok.2 ⟨h.mu_finite, h.mu_nonneg⟩)
    have hwell := WellFormed.of_valid (hchanged.valid h.valid) hmu
    rw [hchanged.dims, h.dims_eq, hchanged.iterations, h.iterations] at hwell
    exact hwell
  · -- A refused operation is not an acceptance.
    have hnone : acceptances [change] [.error error] = 0 := by
      cases change <;> rfl
    rw [hnone]
    exact h

omit [Scalar α] in
/-- The acceptances of a run are those of its first operation and those of
the rest. -/
theorem acceptances_cons (change : Change α) (changes : List (Change α))
    (outcome : Except (Error α) Unit) (outcomes : List (Except (Error α) Unit)) :
    acceptances (change :: changes) (outcome :: outcomes)
      = acceptances [change] [outcome] + acceptances changes outcomes := by
  unfold acceptances
  rw [Nat.add_comm, List.zip_cons_cons, List.countP_cons, List.zip_cons_cons, List.countP_cons]
  simp

/-- A run performs its first operation, and the rest from where that
ended. -/
theorem run_updateAll_cons (change : Change α) (rest : List (Change α)) (state : State α)
    (supply : Supply) :
    (State.updateAll (change :: rest)).run state supply =
      let first := (State.update change).run.run state supply
      let later := (State.updateAll rest).run first.1.2 first.2
      ((first.1.1 :: later.1.1, later.1.2), later.2) := by
  unfold State.updateAll
  rw [List.mapM_cons]
  rfl

/-- The run: every operation in turn. -/
theorem WellFormed.updateAll {dims : Dimensions} {accepted : Nat} {state state' : State α}
    (h : state.WellFormed dims accepted) {changes : List (Change α)}
    {outcomes : List (Except (Error α) Unit)} {supply supply' : Supply}
    (hrun : (State.updateAll changes).run state supply = ((outcomes, state'), supply')) :
    state'.WellFormed dims (accepted + acceptances changes outcomes) := by
  -- On the operations. The state and the count after the first are the start for the rest.
  induction changes generalizing accepted state supply outcomes with
  | nil =>
      cases hrun
      exact h
  | cons change rest ih =>
      rw [run_updateAll_cons] at hrun
      cases hrun
      rw [acceptances_cons, ← Nat.add_assoc]
      exact ih (h.update rfl) rfl

/-- For every run of operations with arbitrary arguments from a state at
the start of an optimization: the state it reaches is well formed for the
sizes of the start and has counted the acceptances, and the next
operation, whichever it is, does what `State.change` says and no more
than it may. -/
theorem wellFormed_and_respects_of_updateAll {dims : Dimensions} {initial : Iterate α} {mu : α}
    {state₀ state : State α} (hstart : State.start dims initial mu = .ok state₀)
    {changes : List (Change α)} {outcomes : List (Except (Error α) Unit)} {supply supply' : Supply}
    (hrun : (State.updateAll changes).run state₀ supply = ((outcomes, state), supply')) :
    state.WellFormed dims (acceptances changes outcomes)
      ∧ ∀ (change : Change α) (outcome : Except (Error α) Unit) (next : State α)
          (before after : Supply),
          (State.update change).run.run state before = ((outcome, next), after) →
            ((outcome, next), after)
                = (state.settle ((state.change change).run before).1,
                    ((state.change change).run before).2)
              ∧ state.Respects change outcome next := by
  have hwell := (start_wellFormed hstart).updateAll hrun
  rw [Nat.zero_add] at hwell
  refine ⟨hwell, fun change outcome next before after hnext => ⟨?_, hwell.valid.respects hnext⟩⟩
  rw [← hnext, run_update]

end InteriorPoint.State

namespace InteriorPoint.HalfLine

/-- Operations on the state of the half line, some of them refused: a
negative barrier parameter, a step without a direction, a direction of
the wrong sizes, and an acceptance without a trial point. -/
def changes : List (State.Change Binary64) :=
  [.mu (-1), .trialFromStep 1 1, .direction { current with x := vector 1 [] }, .direction trial,
    .trialFromStep 0 0, .acceptTrial, .acceptTrial]

/-- A run on the half line in which four operations are refused and one
point is accepted. -/
theorem wellFormed_and_respects_of_updateAll_halfLine :
    State.start problem.dimensions current 1 = .ok { state with trial := none }
      ∧ ∃ outcomes final supply,
        (State.updateAll changes).run { state with trial := none } ⟨33⟩
            = ((outcomes, final), supply)
          ∧ outcomes.map Except.isOk = [false, false, false, true, true, true, false]
          ∧ final.WellFormed problem.dimensions 1
          ∧ final.Respects .acceptTrial (.error (.missingComponent "trial iterate")) final := by
  have hstart : State.start problem.dimensions current 1 = .ok { state with trial := none } := rfl
  have hrun : (State.updateAll changes).run { state with trial := none } ⟨33⟩ = _ := rfl
  obtain ⟨hwell, hnext⟩ := State.wellFormed_and_respects_of_updateAll hstart hrun
  exact ⟨hstart, _, _, _, rfl, rfl, hwell, (hnext .acceptTrial _ _ ⟨34⟩ _ rfl).2⟩

end InteriorPoint.HalfLine
