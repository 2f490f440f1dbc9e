import InteriorPoint.Proofs.Checked
import InteriorPoint.State

/-!
# `InteriorPoint.Proofs.State`: the states of an optimizer

A state arises from `State.start` by changes. Every iterate in such a
state has components of the prescribed sizes (`State.Valid`): those that
are handed in were checked, and moving a point keeps the size of every
component.
-/

set_option autoImplicit false

namespace InteriorPoint

open Drawing

/-- The list of all components is complete. -/
theorem Component.mem_all (part : Component) : part ∈ Component.all := by
  rcases part with _ | _ | _ | _ | ⟨_ | _, _ | _⟩ <;> decide

variable {α : Type}

/-- The length by which a component moves, of the two lengths of a
step. -/
def Component.stepLength (primal dual : α) : Component → α
  | .x | .s => primal
  | .yC | .yD | .multiplier _ => dual

namespace Iterate

/-- Every component has the prescribed size. -/
def Fits (dims : Dimensions) (iterate : Iterate α) : Prop :=
  ∀ part, dims.size part = (iterate.component part).size

/-- The check of an iterate is the check of all its components. -/
theorem validate_eq_ok {dims : Dimensions} {iterate : Iterate α} :
    iterate.validate dims = .ok () ↔ iterate.Fits dims := by
  unfold validate Fits
  rw [Checked.forM_eq_ok]
  simp only [ensureSize_eq_ok, Component.mem_all, true_implies]

variable [Scalar α]

/-- What becomes of a component: with step length zero it is kept, and
otherwise the sum gets a new identity, if the sizes agree. -/
theorem moveComponent_eq_ok {alpha : α} {base step v : TaggedVector α} {supply supply' : Supply} :
    (moveComponent alpha base step).run supply = (.ok v, supply')
      ↔ (Scalar.IsZero alpha ∧ base = v ∧ supply = supply')
        ∨ (¬ Scalar.IsZero alpha ∧ base.size = step.size ∧ TaggedVector.ofList
            (List.zipWith (· + ·) base.entries (step.entries.map (· * alpha))) supply
              = (v, supply')) := by
  unfold moveComponent
  split
  · rename_i hzero
    rw [run_pure_eq_ok]
    simp [hzero]
  · rename_i hmoves
    have hadd : ∀ entries, Linear.moveAlong base.entries alpha step.entries = .ok entries
        ↔ base.size = step.size
          ∧ List.zipWith (· + ·) base.entries (step.entries.map (· * alpha)) = entries := by
      intro entries
      simp only [Linear.moveAlong, Linear.add, Linear.pairwise, List.length_map]
      change (if base.size = step.size then _ else _) = _ ↔ _
      split <;> simp [*]
    simp only [hmoves, false_and, false_or, not_false_eq_true, true_and, run_bind_eq_ok,
      run_checked_eq_ok, run_lift_eq_ok, hadd]
    constructor
    · rintro ⟨_, _, ⟨⟨hsize, rfl⟩, rfl⟩, hnew⟩
      exact ⟨hsize, hnew⟩
    · rintro ⟨hsize, hnew⟩
      exact ⟨_, _, ⟨⟨hsize, rfl⟩, rfl⟩, hnew⟩

/-- A component keeps its size when it moves. -/
theorem size_of_moveComponent {alpha : α} {base step v : TaggedVector α} {supply supply' : Supply}
    (hrun : (moveComponent alpha base step).run supply = (.ok v, supply')) :
    v.size = base.size := by
  rcases moveComponent_eq_ok.1 hrun with ⟨-, rfl, -⟩ | ⟨-, hsize, hnew⟩
  · rfl
  · cases hnew
    have hlength : base.entries.length = step.entries.length := hsize
    show (List.zipWith _ base.entries (step.entries.map _)).length = base.entries.length
    rw [List.length_zipWith, List.length_map, ← hlength, Nat.min_self]

/-- The entries of a component after a step: untouched with step length
zero, and otherwise the sum, however its terms are rounded. -/
theorem entries_eq_of_moveComponent {alpha : α} {base step v : TaggedVector α}
    {supply supply' : Supply}
    (hrun : (moveComponent alpha base step).run supply = (.ok v, supply')) :
    v.entries = if Scalar.IsZero alpha then base.entries
      else List.zipWith (· + ·) base.entries (step.entries.map (· * alpha)) := by
  rcases moveComponent_eq_ok.1 hrun with ⟨hzero, rfl, -⟩ | ⟨hmoves, -, hnew⟩
  · rw [if_pos hzero]
  · cases hnew
    rw [if_neg hmoves]
    rfl

/-- Moving a component only draws new identities. -/
theorem forward_moveComponent (alpha : α) (base step : TaggedVector α) :
    Forward (moveComponent alpha base step) := by
  unfold moveComponent
  split
  · exact forward_pure base
  · exact forward_bind (forward_checked _) fun entries => forward_ofList entries

/-- So does moving a point. -/
theorem forward_takeStep (base : Iterate α) (primal dual : α) (direction : Iterate α) :
    Forward (base.takeStep primal dual direction) := by
  have hmove := forward_moveComponent (α := α)
  refine forward_bind (forward_checked _) fun _ => forward_bind forward_fresh fun _ =>
    forward_bind (hmove _ _ _) fun _ => forward_bind (hmove _ _ _) fun _ =>
    forward_bind (hmove _ _ _) fun _ => forward_bind (hmove _ _ _) fun _ =>
    forward_bind ?_ fun _ => forward_pure _
  -- The multipliers of the four families, one after the other.
  exact forward_bind (hmove _ _ _) fun _ => forward_bind (hmove _ _ _) fun _ =>
    forward_bind (hmove _ _ _) fun _ => forward_bind (hmove _ _ _) fun _ => forward_pure _

/-- What a step does that is accepted: the direction has the sizes of the
point, and each component of the new point comes from moving one. -/
theorem moveComponent_of_takeStep {base direction iterate : Iterate α} {primal dual : α}
    {supply supply' : Supply}
    (hrun : (base.takeStep primal dual direction).run supply = (.ok iterate, supply')) :
    direction.Fits base.dimensions ∧ ∀ part, ∃ before after,
      (moveComponent (part.stepLength primal dual) (base.component part)
        (direction.component part)).run before = (.ok (iterate.component part), after) := by
  simp only [takeStep, PerFamily.ofFnM, run_bind_eq_ok, run_lift_eq_ok, run_checked_eq_ok,
    run_pure_eq_ok] at hrun
  -- What the step ran through, in the order in which the components move.
  obtain ⟨_, _, ⟨hvalidate, -⟩, _, _, -, x, _, hx, s, _, hs, yC, _, hyC, yD, _, hyD, _, _,
    ⟨xLower, _, h₁, xUpper, _, h₂, sLower, _, h₃, sUpper, _, h₄, rfl, -⟩, rfl, -⟩ := hrun
  refine ⟨validate_eq_ok.1 hvalidate, fun part => ?_⟩
  rcases part with _ | _ | _ | _ | ⟨_ | _, _ | _⟩
  · exact ⟨_, _, hx⟩
  · exact ⟨_, _, hs⟩
  · exact ⟨_, _, hyC⟩
  · exact ⟨_, _, hyD⟩
  · exact ⟨_, _, h₁⟩
  · exact ⟨_, _, h₂⟩
  · exact ⟨_, _, h₃⟩
  · exact ⟨_, _, h₄⟩

/-- A point that has moved keeps the sizes that it had. -/
theorem takeStep_fits {dims : Dimensions} {base direction iterate : Iterate α} {primal dual : α}
    {supply supply' : Supply} (hbase : base.Fits dims)
    (hrun : (base.takeStep primal dual direction).run supply = (.ok iterate, supply')) :
    iterate.Fits dims := by
  intro part
  obtain ⟨_, _, hmove⟩ := (moveComponent_of_takeStep hrun).2 part
  rw [hbase part]
  exact (size_of_moveComponent hmove).symm

/-- A component can move along a step of its own size. -/
theorem exists_moveComponent (alpha : α) {base step : TaggedVector α}
    (hsize : step.size = base.size) (supply : Supply) :
    ∃ v supply', (moveComponent alpha base step).run supply = (.ok v, supply') := by
  by_cases hzero : Scalar.IsZero alpha
  · exact ⟨base, supply, moveComponent_eq_ok.2 (Or.inl ⟨hzero, rfl, rfl⟩)⟩
  · exact ⟨_, _, moveComponent_eq_ok.2 (Or.inr ⟨hzero, hsize.symm, rfl⟩)⟩

omit [Scalar α] in
/-- An iterate that fits some sizes has these sizes. -/
theorem Fits.dimensions_eq {dims : Dimensions} {iterate : Iterate α} (h : iterate.Fits dims) :
    iterate.dimensions = dims := by
  obtain ⟨x, s, c, ⟨xLower, xUpper, sLower, sUpper⟩⟩ := dims
  have hbounds := fun family => (h (.multiplier family)).symm
  simp only [dimensions, PerFamily.ofFn, Dimensions.mk.injEq, PerFamily.mk.injEq]
  exact ⟨(h .x).symm, (h .s).symm, (h .yC).symm, hbounds .xLower, hbounds .xUpper, hbounds .sLower,
    hbounds .sUpper⟩

/-- A point can move along a direction of its own sizes. -/
theorem exists_takeStep {dims : Dimensions} {base direction : Iterate α} (hbase : base.Fits dims)
    (hdirection : direction.Fits dims) (primal dual : α) (supply : Supply) :
    ∃ iterate supply', (base.takeStep primal dual direction).run supply
      = (.ok iterate, supply') := by
  have hsize : ∀ part, (direction.component part).size = (base.component part).size :=
    fun part => (hdirection part).symm.trans (hbase part)
  -- The check compares with the sizes of the base, which are the prescribed ones.
  have hvalidate : (direction.validate base.dimensions : Checked α Unit) = .ok () := by
    rw [hbase.dimensions_eq]
    exact validate_eq_ok.2 hdirection
  obtain ⟨tag, supply₀, htag⟩ : ∃ tag supply₀, Tag.fresh supply = (tag, supply₀) := ⟨_, _, rfl⟩
  obtain ⟨x, supply₁, hx⟩ := exists_moveComponent primal (hsize .x) supply₀
  obtain ⟨s, supply₂, hs⟩ := exists_moveComponent primal (hsize .s) supply₁
  obtain ⟨yC, supply₃, hyC⟩ := exists_moveComponent dual (hsize .yC) supply₂
  obtain ⟨yD, supply₄, hyD⟩ := exists_moveComponent dual (hsize .yD) supply₃
  have hmultiplier := fun family => exists_moveComponent dual (hsize (.multiplier family))
  obtain ⟨xLower, supply₅, h₁⟩ := hmultiplier .xLower supply₄
  obtain ⟨xUpper, supply₆, h₂⟩ := hmultiplier .xUpper supply₅
  obtain ⟨sLower, supply₇, h₃⟩ := hmultiplier .sLower supply₆
  obtain ⟨sUpper, supply₈, h₄⟩ := hmultiplier .sUpper supply₇
  refine ⟨{ tag, x, s, yC, yD, multipliers := ⟨xLower, xUpper, sLower, sUpper⟩ }, supply₈, ?_⟩
  simp only [takeStep, PerFamily.ofFnM, run_bind_eq_ok, run_lift_eq_ok, run_checked_eq_ok,
    run_pure_eq_ok]
  exact ⟨_, _, ⟨hvalidate, rfl⟩, _, _, htag, _, _, hx, _, _, hs, _, _, hyC, _, _, hyD, _, _,
    ⟨_, _, h₁, _, _, h₂, _, _, h₃, _, _, h₄, rfl, rfl⟩, rfl, rfl⟩

end Iterate

namespace State

/-- The trial point can be read if it is set. -/
theorem iterateAt_trial_eq_ok {state : State α} {iterate : Iterate α} :
    state.iterateAt .trial = .ok iterate ↔ state.trial = some iterate := by
  unfold iterateAt
  cases state.trial <;> simp

/-- Reading a point depends on the two points only. -/
theorem iterateAt_congr {state state' : State α} (hcurrent : state'.current = state.current)
    (htrial : state'.trial = state.trial) (point : Point) :
    state'.iterateAt point = state.iterateAt point := by
  unfold iterateAt
  rw [hcurrent, htrial]

/-- The search direction can be read if it is set. -/
theorem requireDirection_eq_ok {state : State α} {iterate : Iterate α} :
    state.requireDirection = .ok iterate ↔ state.direction = some iterate := by
  unfold requireDirection
  cases state.direction <;> simp

/-- All iterates of the state have the sizes of the state. -/
structure Valid (state : State α) : Prop where
  current : state.current.Fits state.dims
  trial : ∀ iterate, state.trial = some iterate → iterate.Fits state.dims
  direction : ∀ iterate, state.direction = some iterate → iterate.Fits state.dims

/-- A point that can be read has the sizes of the state. -/
theorem Valid.iterateAt {state : State α} (h : state.Valid) {point : Point} {iterate : Iterate α}
    (hat : state.iterateAt point = .ok iterate) : iterate.Fits state.dims := by
  cases point with
  | current =>
      cases hat
      exact h.current
  | trial => exact h.trial iterate (iterateAt_trial_eq_ok.1 hat)

variable [Scalar α]

/-- What a change that succeeds does to the state. -/
inductive Changed (state : State α) (supply : Supply) : Change α → State α → Supply → Prop where
  | mu {value : α} (hmu : ensureMu value = .ok ()) :
      Changed state supply (.mu value) { state with mu := value } supply
  | trial {iterate : Iterate α} (hfits : iterate.Fits state.dims) :
      Changed state supply (.trial iterate) { state with trial := some iterate } supply
  | direction {iterate : Iterate α} (hfits : iterate.Fits state.dims) :
      Changed state supply (.direction iterate) { state with direction := some iterate } supply
  | trialFromStep {primal dual : α} {direction iterate : Iterate α} {supply' : Supply}
      (hdirection : state.direction = some direction)
      (hstep : (state.current.takeStep primal dual direction).run supply = (.ok iterate, supply')) :
      Changed state supply (.trialFromStep primal dual) { state with trial := some iterate } supply'
  | acceptTrial {iterate : Iterate α} (htrial : state.trial = some iterate) :
      Changed state supply .acceptTrial
        { state with
          current := iterate, trial := none, direction := none, iterations := state.iterations + 1 }
        supply

/-- What a change does can be read off its run. -/
theorem changed_of_run {state state' : State α} {change : Change α} {supply supply' : Supply}
    (hrun : (state.change change).run supply = (.ok state', supply')) :
    Changed state supply change state' supply' := by
  cases change with
  | mu value =>
      simp only [State.change, run_bind_eq_ok, run_checked_eq_ok, run_pure_eq_ok] at hrun
      obtain ⟨_, _, ⟨hmu, rfl⟩, rfl, rfl⟩ := hrun
      exact .mu hmu
  | trial iterate =>
      simp only [State.change, run_bind_eq_ok, run_checked_eq_ok, run_pure_eq_ok] at hrun
      obtain ⟨_, _, ⟨hvalidate, rfl⟩, rfl, rfl⟩ := hrun
      exact .trial (Iterate.validate_eq_ok.1 hvalidate)
  | direction iterate =>
      simp only [State.change, run_bind_eq_ok, run_checked_eq_ok, run_pure_eq_ok] at hrun
      obtain ⟨_, _, ⟨hvalidate, rfl⟩, rfl, rfl⟩ := hrun
      exact .direction (Iterate.validate_eq_ok.1 hvalidate)
  -- The only change that draws from the supply.
  | trialFromStep primal dual =>
      simp only [State.change, run_bind_eq_ok, run_checked_eq_ok, run_pure_eq_ok] at hrun
      obtain ⟨direction, _, ⟨hdirection, rfl⟩, iterate, _, hstep, rfl, rfl⟩ := hrun
      exact .trialFromStep (requireDirection_eq_ok.1 hdirection) hstep
  | acceptTrial =>
      simp only [State.change, run_bind_eq_ok, run_checked_eq_ok, run_pure_eq_ok] at hrun
      obtain ⟨iterate, _, ⟨htrial, rfl⟩, rfl, rfl⟩ := hrun
      exact .acceptTrial (iterateAt_trial_eq_ok.1 htrial)

/-- A change only draws new identities. -/
theorem forward_change (state : State α) (change : Change α) : Forward (state.change change) := by
  cases change with
  | mu value => exact forward_bind (forward_checked _) fun _ => forward_pure _
  | trial iterate => exact forward_bind (forward_checked _) fun _ => forward_pure _
  | direction iterate => exact forward_bind (forward_checked _) fun _ => forward_pure _
  | trialFromStep primal dual =>
      exact forward_bind (forward_checked _) fun direction =>
        forward_bind (Iterate.forward_takeStep _ _ _ direction) fun _ => forward_pure _
  | acceptTrial => exact forward_bind (forward_checked _) fun _ => forward_pure _

/-- No change touches the sizes. -/
theorem Changed.dims {state state' : State α} {change : Change α} {supply supply' : Supply}
    (h : Changed state supply change state' supply') : state'.dims = state.dims := by
  cases h <;> rfl

/-- A change keeps all sizes as they should be. -/
theorem Changed.valid {state state' : State α} {change : Change α} {supply supply' : Supply}
    (h : Changed state supply change state' supply') (hvalid : state.Valid) : state'.Valid := by
  cases h with
  | mu hmu => exact ⟨hvalid.current, hvalid.trial, hvalid.direction⟩
  | trial hfits =>
      refine ⟨hvalid.current, fun iterate htrial => ?_, hvalid.direction⟩
      cases htrial
      exact hfits
  | direction hfits =>
      refine ⟨hvalid.current, hvalid.trial, fun iterate hdirection => ?_⟩
      cases hdirection
      exact hfits
  | trialFromStep hdirection hstep =>
      refine ⟨hvalid.current, fun iterate htrial => ?_, hvalid.direction⟩
      cases htrial
      exact Iterate.takeStep_fits hvalid.current hstep
  -- The trial point becomes the current one, and the other two are gone.
  | acceptTrial htrial =>
      exact ⟨hvalid.trial _ htrial, by simp, by simp⟩

/-- The states that an optimizer can be in. The supplies from which
moved points draw their identities are arbitrary. -/
inductive Reachable : State α → Prop where
  | start {dims : Dimensions} {initial : Iterate α} {mu : α} {state : State α}
      (hstart : State.start dims initial mu = .ok state) : Reachable state
  | change {state state' : State α} (h : Reachable state) (change : Change α)
      {supply supply' : Supply} (hrun : (state.change change).run supply = (.ok state', supply')) :
      Reachable state'

/-- A state at the start of an optimization is valid. -/
theorem start_valid {dims : Dimensions} {initial : Iterate α} {mu : α} {state : State α}
    (hstart : State.start dims initial mu = .ok state) : state.Valid := by
  simp only [State.start, Checked.bind_eq_ok, Checked.pure_eq_ok] at hstart
  obtain ⟨_, hvalidate, _, -, rfl⟩ := hstart
  exact ⟨Iterate.validate_eq_ok.1 hvalidate, by simp, by simp⟩

/-- Every state that can be reached is valid. -/
theorem Reachable.valid {state : State α} (h : Reachable state) : state.Valid := by
  induction h with
  | start hstart => exact start_valid hstart
  | change _ change hrun ih => exact (changed_of_run hrun).valid ih

/-- With a search direction set, a trial point can be reached along it. -/
theorem Valid.exists_trialFromStep {state : State α} (h : state.Valid) {direction : Iterate α}
    (hdirection : state.direction = some direction) (primal dual : α) (supply : Supply) :
    ∃ iterate supply', (state.current.takeStep primal dual direction).run supply
        = (.ok iterate, supply')
      ∧ (state.change (.trialFromStep primal dual)).run supply
        = (.ok { state with trial := some iterate }, supply') := by
  obtain ⟨iterate, supply', hstep⟩ := Iterate.exists_takeStep h.current
    (h.direction direction hdirection) primal dual supply
  refine ⟨iterate, supply', hstep, ?_⟩
  -- The direction is read first, and the point that is reached becomes the trial point.
  simp only [State.change, run_bind_eq_ok, run_checked_eq_ok, run_pure_eq_ok]
  exact ⟨direction, supply, ⟨requireDirection_eq_ok.2 hdirection, rfl⟩, iterate, supply', hstep,
    rfl, rfl⟩

/-! ### The barrier parameter -/

/-- A barrier parameter is accepted if it is finite and not negative. -/
theorem ensureMu_eq_ok {mu : α} : ensureMu mu = .ok () ↔ Scalar.isFinite mu = true ∧ 0 ≤ mu := by
  unfold ensureMu
  split <;> simp [*]

/-- A change keeps the barrier parameter acceptable. -/
theorem Changed.ensureMu {state state' : State α} {change : Change α} {supply supply' : Supply}
    (h : Changed state supply change state' supply') (hmu : State.ensureMu state.mu = .ok ()) :
    State.ensureMu state'.mu = .ok () := by
  cases h with
  | mu hvalue => exact hvalue
  | trial => exact hmu
  | direction => exact hmu
  | trialFromStep => exact hmu
  | acceptTrial => exact hmu

/-- The barrier parameter of an optimizer has passed the check. -/
theorem Reachable.ensureMu {state : State α} (h : Reachable state) :
    State.ensureMu state.mu = .ok () := by
  induction h with
  | start hstart =>
      simp only [State.start, Checked.bind_eq_ok, Checked.pure_eq_ok] at hstart
      obtain ⟨_, -, _, hmu, rfl⟩ := hstart
      exact hmu
  | change _ change hrun ih => exact (changed_of_run hrun).ensureMu ih

end State

end InteriorPoint
