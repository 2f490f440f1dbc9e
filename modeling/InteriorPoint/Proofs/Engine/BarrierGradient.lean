import InteriorPoint.Proofs.Scalar.Real
import InteriorPoint.Proofs.Engine.Answers
import InteriorPoint.Proofs.Quantity.BarrierTerm
import InteriorPoint.Proofs.Step

/-!
# `InteriorPoint.Proofs.Engine.BarrierGradient`: the barrier gradient belongs to the objective

Along a step the barrier terms of an engine grow by at least what their
derivative says. The terms are the answers for the barrier objective less
those for the objective, and the derivative is the answer for the
directional derivative less the part of the objective. This is exact
arithmetic with any logarithm that lies below its tangents.

What makes it true of an engine is that its settings keep what they were
checked for: the barrier parameter and the damping weight are not
negative. The rest is the inequality for one setting
(`Setting.Sound.exists_subgradient`), in which the variables have moved
by a multiple of the direction (`movement_of_takeStep`).
-/

set_option autoImplicit false

namespace InteriorPoint

/-! ### The answers that are compared -/

section
variable {α : Type} [Scalar α]

/-- What an engine answers about the barrier objective and its gradient. -/
structure Engine.BarrierAnswers (engine : Engine α) where
  objective : Point → α
  barrier : Point → α
  gradient : List α
  xGradient : List α
  sGradient : List α
  derivative : α
  answers_objective : ∀ point, engine.Answers (.quantity (.objective point)) (objective point)
  answers_barrier : ∀ point, engine.Answers (.quantity (.barrierObjective point)) (barrier point)
  answers_gradient : engine.Answers (.quantity .objectiveGradient) gradient
  answers_xGradient : engine.Answers (.quantity (.barrierGradient .x)) xGradient
  answers_sGradient : engine.Answers (.quantity (.barrierGradient .s)) sGradient
  answers_derivative : engine.Answers (.quantity .directionalDerivative) derivative

omit [Scalar α] in
/-- Once there is a trial point, both points are there. -/
theorem State.exists_points {state : State α} {trial : Iterate α}
    (htrial : state.trial = some trial) :
    ∃ points : Point → Iterate α, points .current = state.current ∧ points .trial = trial
      ∧ ∀ point, state.iterateAt point = .ok (points point) := by
  refine ⟨Point.rec (motive := fun _ => Iterate α) state.current trial, rfl, rfl,
    fun point => ?_⟩
  cases point with
  | current => rfl
  | trial => exact State.iterateAt_trial_eq_ok.2 htrial

end

/-! ### The growth of the barrier terms -/

variable {K : Type} [Field K] [LinearOrder K] [ExactFunctions K]

/-- Along a step the variables of both blocks change by a multiple of the
direction. -/
theorem Setting.movement_of_takeStep {setting : Setting K} {direction iterate : Iterate K}
    {primal dual : K} {supply supply' : Supply} (hfits : setting.state.current.Fits setting.dims)
    (hdirection : direction.Fits setting.dims)
    (hstep : (setting.state.current.takeStep primal dual direction).run supply
      = (.ok iterate, supply')) (block : Block) :
    setting.movement iterate block = (direction.primal block).entries.map (· * primal) := by
  -- The direction has as many entries as the variables of the block.
  have hlength : ((direction.primal block).entries.map (· * primal)).length
      = (setting.state.current.primal block).entries.length := by
    rw [List.length_map]
    cases block with
    | x => exact (hdirection .x).symm.trans (hfits .x)
    | s => exact (hdirection .s).symm.trans (hfits .s)
  rw [movement, Iterate.entries_of_takeStep hfits hdirection hstep, Linear.sub_of_add hlength]

/-- The subgradient, paired with a direction along which the trial point
was reached. -/
theorem Setting.Sound.exists_subgradient_along [IsStrictOrderedRing K]
    (hlog : ∀ u v : K, 0 < u → 0 < v → Scalar.log v - Scalar.log u ≤ (v - u) / u)
    {setting : Setting K} (hsound : setting.Sound) (hmu : 0 ≤ setting.mu)
    (hweight : 0 ≤ setting.options.dampingWeight)
    (hgradient : (setting.objectivePart .x).length = setting.dims.x)
    (huncorrected : ∀ point, setting.Uncorrected point) {direction trial : Iterate K}
    (hdirection : setting.state.direction = some direction)
    (htrial : setting.state.trial = some trial) {primal dual : K} {supply supply' : Supply}
    (hstep : (setting.state.current.takeStep primal dual direction).run supply
      = (.ok trial, supply')) :
    ∃ xGradient sGradient : List K,
      setting.value (.barrierGradient .x) = .ok xGradient
        ∧ setting.value (.barrierGradient .s) = .ok sGradient
        ∧ xGradient.length = setting.dims.x ∧ sGradient.length = setting.dims.s
        ∧ primal
            * (Linear.laneDot (List.zipWith (· - ·) xGradient (setting.objectivePart .x))
                direction.x.entries
              + Linear.laneDot sGradient direction.s.entries)
          ≤ setting.barrierAt trial - setting.barrierAt setting.state.current := by
  obtain ⟨xGradient, sGradient, hx, hs, hxLength, hsLength, hle⟩ :=
    hsound.exists_subgradient hlog hmu hweight hgradient (huncorrected .current)
      (huncorrected .trial) (State.iterateAt_trial_eq_ok.2 htrial)
  refine ⟨xGradient, sGradient, hx, hs, hxLength, hsLength, ?_⟩
  -- The variables have moved by the direction, times the step length.
  have hmovement := movement_of_takeStep hsound.valid.current
    (hsound.valid.direction direction hdirection) hstep
  rw [hmovement .x, hmovement .s, Linear.laneDot_map_mul, Linear.laneDot_map_mul, ← mul_add] at hle
  exact hle

/-- What an engine answers whose trial point was reached along its search
direction. -/
theorem Session.exists_barrierAnswers [IsStrictOrderedRing K]
    (hlog : ∀ u v : K, 0 < u → 0 < v → Scalar.log v - Scalar.log u ≤ (v - u) / u)
    {pool : Pool K} {engine : Engine K} (h : Session pool engine) {direction trial : Iterate K}
    (hdirection : engine.setting.state.direction = some direction)
    (htrial : engine.setting.state.trial = some trial) {primal dual : K} {supply supply' : Supply}
    (hstep : (engine.setting.state.current.takeStep primal dual direction).run supply
      = (.ok trial, supply'))
    (hgradient : (engine.setting.problem.callbacks.gradient
      engine.setting.state.current.x.entries).length = engine.setting.dims.x)
    (huncorrected : ∀ point, engine.setting.Uncorrected point) :
    ∃ answers : engine.BarrierAnswers,
      let slope := answers.derivative
        - (List.zipWith (· * ·) answers.gradient direction.x.entries).sum
      primal * slope ≤ (answers.barrier .trial - answers.objective .trial)
          - (answers.barrier .current - answers.objective .current)
        ∧ slope = (List.zipWith (· * ·) (List.zipWith (· - ·) answers.xGradient answers.gradient)
              direction.x.entries).sum
            + (List.zipWith (· * ·) answers.sGradient direction.s.entries).sum := by
  have hsound := h.reachable.wellFormed.sound
  have hmu := h.mu_nonneg
  have hweight := h.dampingWeight_nonneg
  obtain ⟨xGradient, sGradient, hx, hs, hxLength, hsLength, hle⟩ :=
    hsound.exists_subgradient_along hlog hmu hweight hgradient huncorrected hdirection htrial hstep
  have hderivative := hsound.value_directionalDerivative hdirection hx hs hxLength hsLength
  have hpart : (engine.setting.objectivePart .x).length = engine.setting.dims.x := hgradient
  -- The part of the objective is taken out of the pairing with `x`.
  have hlinear : Linear.laneDot xGradient direction.x.entries
        + Linear.laneDot sGradient direction.s.entries
        - Linear.laneDot (engine.setting.objectivePart .x) direction.x.entries
      = Linear.laneDot (List.zipWith (· - ·) xGradient (engine.setting.objectivePart .x))
          direction.x.entries
        + Linear.laneDot sGradient direction.s.entries := by
    rw [Linear.laneDot_sub_left (hxLength.trans hpart.symm)]
    ring
  obtain ⟨points, hcurrent, htrialPoint, hpoints⟩ := State.exists_points htrial
  let answers : engine.BarrierAnswers :=
    { objective := fun point => engine.setting.problem.callbacks.objective (points point).x.entries
      barrier := fun point => engine.setting.problem.callbacks.objective (points point).x.entries
        + engine.setting.barrierAt (points point)
      gradient := engine.setting.objectivePart .x
      xGradient
      sGradient
      derivative := Linear.laneDot xGradient direction.x.entries
        + Linear.laneDot sGradient direction.s.entries
      answers_objective := fun point =>
        h.answers_quantity (.exact _) rfl (Setting.value_objective (hpoints point))
      answers_barrier := fun point => h.answers_quantity (.exact _) rfl
        (hsound.value_barrierObjective hweight (huncorrected point) (hpoints point))
      answers_gradient :=
        h.answers_quantity (.exact _) rfl (Setting.value_objectiveGradient hgradient)
      answers_xGradient := h.answers_quantity (.exact _) rfl hx
      answers_sGradient := h.answers_quantity (.exact _) rfl hs
      answers_derivative := h.answers_quantity (.exact _) rfl hderivative }
  refine ⟨answers, ?_⟩
  -- At either point the objective cancels, and the barrier terms are left.
  have hgrowth : answers.barrier .trial - answers.objective .trial
        - (answers.barrier .current - answers.objective .current)
      = engine.setting.barrierAt trial - engine.setting.barrierAt engine.setting.state.current := by
    simp only [answers, hcurrent, htrialPoint, add_sub_cancel_left]
  simp only [← Linear.laneDot_eq]
  rw [hgrowth]
  exact ⟨(congrArg (primal * ·) hlinear).trans_le hle, hlinear⟩

/-- The barrier terms of an engine grow along a step by at least the step
length times their derivative. The step may have any lengths and go along
any direction, provided that no slack is corrected at either end. Nothing
is assumed of the problem besides the size of its gradient, and all the
answers that are compared exist.

Less the part of the objective, the derivative is linear in the
direction. It pairs the `x` part with the gradient of the barrier
objective less that of the objective, and the `s` part with the gradient
of the barrier objective. -/
theorem Session.mul_derivative_le_barrier_sub [IsStrictOrderedRing K]
    (hlog : ∀ u v : K, 0 < u → 0 < v → Scalar.log v - Scalar.log u ≤ (v - u) / u)
    {pool : Pool K} {engine : Engine K} (h : Session pool engine) {direction : Iterate K}
    (hdirection : engine.setting.state.direction = some direction)
    (hgradient : (engine.setting.problem.callbacks.gradient
      engine.setting.state.current.x.entries).length = engine.setting.dims.x)
    (primal dual : K) :
    let reply := (engine.perform (.change (.trialFromStep primal dual)) pool.supply).1
    reply.result = .ok () ∧
      (∃ trial, reply.engine.setting.state.trial = some trial ∧ ∀ block,
        (trial.primal block).entries
          = List.zipWith (· + ·) (engine.setting.state.current.primal block).entries
            ((direction.primal block).entries.map (· * primal))) ∧
      ((∀ point, reply.engine.setting.Uncorrected point) →
        ∃ answers : reply.engine.BarrierAnswers,
          let slope := answers.derivative
            - (List.zipWith (· * ·) answers.gradient direction.x.entries).sum
          primal * slope ≤ (answers.barrier .trial - answers.objective .trial)
              - (answers.barrier .current - answers.objective .current)
            ∧ slope = (List.zipWith (· * ·)
                  (List.zipWith (· - ·) answers.xGradient answers.gradient)
                  direction.x.entries).sum
                + (List.zipWith (· * ·) answers.sGradient direction.s.entries).sum) := by
  intro reply
  have hvalid := h.reachable.wellFormed.valid
  obtain ⟨trial, supply', hstep, hchange⟩ :=
    hvalid.exists_trialFromStep hdirection primal dual pool.supply
  have hreply : reply = { result := .ok (), events := [], engine := { engine with setting :=
      { engine.setting with state := { engine.setting.state with trial := some trial } } } } :=
    congrArg Prod.fst (Engine.changeState_of_changed hchange)
  have hentries := Iterate.entries_of_takeStep hvalid.current
    (hvalid.direction direction hdirection) hstep
  -- The answers are those of the engine after the step.
  have hsession := h.perform (.change (.trialFromStep primal dual)) trivial
  change Session _ reply.engine at hsession
  rw [hreply] at hsession ⊢
  exact ⟨rfl, ⟨trial, rfl, hentries⟩,
    hsession.exists_barrierAnswers hlog hdirection rfl hstep hgradient⟩

/-! ### A small session in exact arithmetic -/

namespace MixedBounds

/-- Two variables and one inequality. The first variable is bounded
below, the second on both sides, and the inequality above. -/
noncomputable def problem : Problem ℝ where
  xBounds :=
    { lower :=
        { selection := Corner.both
          values := [0, 0]
          aligned := rfl }
      upper :=
        { selection := Corner.second
          values := [4]
          aligned := rfl }
      same_dim := rfl }
  dBounds :=
    { lower := .none 1
      upper :=
        { selection := Corner.single
          values := [3]
          aligned := rfl }
      same_dim := rfl }
  equalities := 0
  callbacks :=
    { objective := fun x => x.headD 0
      gradient := fun _ => [1, 0]
      constraint := fun _ _ => []
      jacobian := fun _ x => .dense (.zero 0 x.length)
      hessian := fun x _ _ _ => .zero x.length x.length }

/-- The damping weight is positive, so the damping terms take part. -/
noncomputable def options : Options ℝ where
  violationNorm := .one
  multiplierThreshold := 1
  dampingWeight := 1
  boundMove := 0

/-- A vector with its identity and that of its storage, drawn in a row. -/
def vector (n : Nat) (entries : List ℝ) : TaggedVector ℝ :=
  ⟨⟨n⟩, ⟨n + 1, entries⟩⟩

/-- A point with its identity, its primal vectors and zeros as
multipliers. -/
noncomputable def point (n : Nat) (x s : TaggedVector ℝ) : Iterate ℝ where
  tag := ⟨n⟩
  x := x
  s := s
  yC := vector (n + 1) []
  yD := vector (n + 3) [0]
  multipliers :=
    ⟨vector (n + 5) [0, 0], vector (n + 7) [0], vector (n + 9) [], vector (n + 11) [0]⟩

/-- The first point. -/
noncomputable def x : TaggedVector ℝ := vector 1 [1, (2 : Nat)]
/-- The slack variable at the first point. -/
noncomputable def s : TaggedVector ℝ := vector 3 [1]
/-- The first part of the search direction. -/
noncomputable def dx : TaggedVector ℝ := vector 5 [1, -1 / (2 : Nat)]
/-- Its second part. -/
noncomputable def ds : TaggedVector ℝ := vector 7 [-1]

/-- The point the step starts from. -/
noncomputable def current : Iterate ℝ := point 9 x s
/-- The search direction. -/
noncomputable def direction : Iterate ℝ := point 22 dx ds

/-- The four vectors that are given. -/
noncomputable def vectors : Pool ℝ :=
  ((((Pool.addVector {} x ⟨3⟩).addVector s ⟨5⟩).addVector dx ⟨7⟩).addVector ds ⟨9⟩)

/-- The two points that are completed from them. -/
noncomputable def pool : Pool ℝ :=
  (vectors.addPoint current ⟨22⟩).addPoint direction ⟨35⟩

/-- Vectors and points are made as a program makes them. -/
theorem pool_reachable : pool.Reachable := by
  have hvectors : vectors.Reachable :=
    .step (.step (.step (.step .empty (.vector [1, 2] rfl)) (.vector [1] rfl))
      (.vector [1, -1 / 2] rfl)) (.vector [-1] rfl)
  -- Real numbers are not compared by evaluation, so membership is shown in the list.
  have hcurrent : ∀ v ∈ (IterateDraft.ofPrimal x s).given, v ∈ vectors.vectors := by
    change ∀ v ∈ [x, s], v ∈ vectors.vectors
    simp [vectors]
  have hdirection : ∀ v ∈ (IterateDraft.ofPrimal dx ds).given,
      v ∈ (vectors.addPoint current ⟨22⟩).vectors := by
    change ∀ v ∈ [dx, ds], v ∈ (vectors.addPoint current ⟨22⟩).vectors
    simp [vectors, Pool.addPoint]
  exact .step (.step hvectors (.build problem.dimensions hcurrent rfl))
    (.build problem.dimensions hdirection rfl)

/-- The state at the first point, with the direction set. -/
noncomputable def state : State ℝ where
  dims := problem.dimensions
  current := current
  trial := none
  direction := some direction
  mu := 1
  iterations := 0

/-- An engine in this state that has not been asked for anything. -/
noncomputable def engine : Engine ℝ where
  setting :=
    { problem, state, options
      damping := dampingIndicators problem.xBounds problem.dBounds }
  store := {}
  adjusted := ⟨0, 0, 0, 0⟩

/-- The state comes about by starting at the point and setting the
direction. -/
theorem arises : State.Arises (pool.learn state ⟨35⟩) state := by
  have hmu : State.ensureMu (1 : ℝ) = .ok () := if_pos ⟨rfl, zero_le_one⟩
  have hstart : State.start problem.dimensions current 1
      = .ok { state with direction := none } := by
    rw [State.start, hmu]
    rfl
  have harises : State.Arises pool { state with direction := none } :=
    .start pool_reachable (List.mem_cons_of_mem _ List.mem_cons_self) hstart
  exact harises.change (.direction direction) List.mem_cons_self rfl

/-- The options pass the checks of a new engine. -/
theorem validate_options : (options.validate : Checked ℝ Unit) = .ok () := by
  have hrange : ∀ least value : ℝ, least ≤ value → Options.inRange least value = true :=
    fun _ _ hle => decide_eq_true hle
  have hthreshold := hrange 1 options.multiplierThreshold (le_refl _)
  have hweight := hrange 0 options.dampingWeight zero_le_one
  have hmove := hrange 0 options.boundMove (le_refl _)
  simp only [Options.validate, hthreshold, hweight, hmove, if_true]
  rfl

/-- So the engine begins a session. -/
theorem session : Session (pool.learn state ⟨35⟩) engine :=
  .new arises (Engine.new_eq_ok.2 ⟨validate_options, rfl, rfl⟩)

/-- The least slack that is left alone is at most one. -/
theorem least_le_one : Slack.least engine.setting.mu ≤ 1 := by
  have hmu : engine.setting.mu = 1 := rfl
  have hmin : Scalar.min (1 : ℝ) 1 = 1 := by simp [Scalar.min]
  have hhalf : ∀ n : Nat, (2 : ℝ)⁻¹ ^ n ≤ 1 := fun n => pow_le_one₀ (by norm_num) (by norm_num)
  rw [hmu, Slack.least, hmin]
  split
  · exact (mul_one _).trans_le (hhalf 52)
  · exact hhalf 1022

/-- Distances of at least one need no correction. -/
theorem collapsed_eq_zero {iterate : Iterate ℝ} {a b c : ℝ} (hx : iterate.x.entries = [a, b])
    (hs : iterate.s.entries = [c]) (ha : 1 ≤ a) (hb : 1 ≤ b) (hb' : b ≤ 3) (hc : c ≤ 2)
    (family : Family) :
    engine.setting.collapsed family (iterate.primal family.block).entries = 0 := by
  have hlarge : ∀ distance ∈ engine.setting.distances family (iterate.primal family.block).entries,
      1 ≤ distance := by
    -- One inequality for each bound.
    rcases family with ⟨_ | _, _ | _⟩
    · change ∀ distance ∈ problem.xBounds.lower.distances .lower iterate.x.entries, 1 ≤ distance
      rw [hx]
      change ∀ distance ∈ [a - 0, b - 0], 1 ≤ distance
      simp [ha, hb]
    · change ∀ distance ∈ problem.xBounds.upper.distances .upper iterate.x.entries, 1 ≤ distance
      rw [hx]
      change ∀ distance ∈ [4 - b], 1 ≤ distance
      rw [List.forall_mem_singleton]
      linarith
    · exact fun _ hmem => absurd hmem List.not_mem_nil
    · change ∀ distance ∈ problem.dBounds.upper.distances .upper iterate.s.entries, 1 ≤ distance
      rw [hs]
      change ∀ distance ∈ [3 - c], 1 ≤ distance
      rw [List.forall_mem_singleton]
      linarith
  refine List.countP_eq_zero.2 fun distance hmem hsmall => ?_
  exact of_decide_eq_true hsmall (least_le_one.trans (hlarge distance hmem))

/-- Neither end of the step needs a correction. -/
theorem uncorrected (point : Point) :
    (engine.perform (.change (.trialFromStep 1 1)) ⟨35⟩).1.engine.setting.Uncorrected point := by
  have hvalid := session.reachable.wellFormed.valid
  have hdirection : engine.setting.state.direction = some direction := rfl
  obtain ⟨trial, supply', hstep, hchange⟩ := hvalid.exists_trialFromStep hdirection 1 1 ⟨35⟩
  -- A full step is taken, from one interior point to another.
  have hentries := Iterate.entries_of_takeStep hvalid.current (hvalid.direction _ rfl) hstep
  have hx : trial.x.entries = [1 + 1 * 1, 2 + -1 / 2 * 1] := hentries .x
  have hs : trial.s.entries = [1 + -1 * 1] := hentries .s
  have hreply : engine.perform (.change (.trialFromStep 1 1)) ⟨35⟩ = _ :=
    Engine.changeState_of_changed hchange
  rw [hreply]
  intro iterate hat family
  cases point with
  | current =>
      cases hat
      exact collapsed_eq_zero rfl rfl (by norm_num) (by norm_num) (by norm_num) (by norm_num) family
  | trial =>
      cases hat
      exact collapsed_eq_zero hx hs (by norm_num) (by norm_num) (by norm_num) (by norm_num) family

end MixedBounds

/-- The step from `x = (1, 2)` and `s = 1` along `(1, -1/2)` and `-1`, with
a lower bound, an upper bound and both. -/
theorem Session.mul_derivative_le_barrier_sub_mixedBounds :
    let reply := (MixedBounds.engine.perform (.change (.trialFromStep 1 1)) ⟨35⟩).1
    (∀ point, reply.engine.setting.Uncorrected point) ∧
      ∃ answers : reply.engine.BarrierAnswers,
        let slope := answers.derivative
          - (List.zipWith (· * ·) answers.gradient [1, -1 / 2]).sum
        1 * slope ≤ (answers.barrier .trial - answers.objective .trial)
            - (answers.barrier .current - answers.objective .current)
          ∧ slope = (List.zipWith (· * ·)
                (List.zipWith (· - ·) answers.xGradient answers.gradient) [1, -1 / 2]).sum
              + (List.zipWith (· * ·) answers.sGradient [-1]).sum := by
  have hdirection : MixedBounds.engine.setting.state.direction = some MixedBounds.direction := rfl
  -- The real logarithm satisfies the tangent law.
  obtain ⟨-, -, hle⟩ := Session.mul_derivative_le_barrier_sub
    (fun _ _ hu hv => Scalar.log_sub_log_le hu hv) MixedBounds.session hdirection rfl 1 1
  exact ⟨MixedBounds.uncorrected, hle MixedBounds.uncorrected⟩

end InteriorPoint
