import InteriorPoint.Proofs.Engine.Answers
import InteriorPoint.Proofs.Quantity.StepLimits
import InteriorPoint.Proofs.Step

/-!
# `InteriorPoint.Proofs.Engine.StepLimits`: limited steps stay inside

A step along the search direction that respects the limits which the
engine answers for a fraction `tau` keeps the fraction `1 - tau` of every
distance to a bound and of every bound multiplier
(`Session.step_stays_inside`). This is exact arithmetic.

Three things have to fit together. The limits suit the slacks and the
multipliers of every family (`Sound.gives_primalStepLimit`,
`Sound.gives_dualStepLimit`). The distances of the trial point are those
of the current point plus the step length times the rates for which the
limit was computed (`distance_of_takeStep`). And the slack of the trial
point is not smaller than its distance, because the correction only ever
raises an entry.

A slack that was corrected is not the distance, so a limit that suits the
slack promises nothing of the distance. The promise is made for the
entries whose slack is the distance itself.
-/

set_option autoImplicit false

namespace InteriorPoint

/-- The slacks of a family that an engine answers, and those that it
answers for the trial point after a step. -/
structure Engine.StepAnswers {α : Type} [Scalar α] (engine after : Engine α)
    (family : Family) where
  slack : List α
  trialSlack : List α
  answers_slack : engine.Answers (.quantity (.slack .current family)) slack
  answers_trialSlack : after.Answers (.quantity (.slack .trial family)) trialSlack

variable {K : Type} [Field K] [LinearOrder K] [ExactFunctions K]

namespace Setting

/-- What a step to `trial` keeps of bound `n` of a family, whose slack is
an entry of `slack` before and of `trialSlack` after the step. -/
structure StaysInside (setting : Setting K) (tau : K) (trial : Iterate K) (family : Family)
    (slack trialSlack : List K) (n : Nat) : Prop where
  /-- A slack that was not corrected is the distance to the bound. The
  distance of the trial point keeps the fraction, and its slack is at
  least that distance. -/
  distance :
    let before := setting.distances family (setting.state.current.primal family.block).entries
    let after := setting.distances family (trial.primal family.block).entries
    slack.getD n 0 = before.getD n 0 →
      (1 - tau) * slack.getD n 0 ≤ after.getD n 0 ∧ after.getD n 0 ≤ trialSlack.getD n 0
        ∧ (tau < 1 → 0 < after.getD n 0)
  /-- A multiplier that is not negative keeps the fraction. -/
  multiplier :
    let before := (setting.state.current.multipliers.get family).entries
    let after := (trial.multipliers.get family).entries
    0 ≤ before.getD n 0 → (1 - tau) * before.getD n 0 ≤ after.getD n 0
      ∧ (tau < 1 → 0 < before.getD n 0 → 0 < after.getD n 0)

variable {setting : Setting K} {direction trial : Iterate K} {a b : K} {supply supply' : Supply}

/-- The distances of the trial point: those of the current point, moved
along the rates of the direction. -/
theorem Sound.distance_of_takeStep (hsound : setting.Sound)
    (hdirection : direction.Fits setting.dims)
    (hstep : (setting.state.current.takeStep a b direction).run supply = (.ok trial, supply'))
    (family : Family) (n : Nat) :
    (setting.distances family (trial.primal family.block).entries).getD n 0
      = (setting.distances family (setting.state.current.primal family.block).entries).getD n 0
        + a * ((setting.problem.limits family).rates family.side
          (direction.primal family.block).entries).getD n 0 := by
  have hcurrent := hsound.valid.current
  have hlength : (direction.primal family.block).entries.length
      = (setting.state.current.primal family.block).entries.length := by
    obtain ⟨_ | _, side⟩ := family
    · exact (hdirection .x).symm.trans (hcurrent .x)
    · exact (hdirection .s).symm.trans (hcurrent .s)
  -- The distances and their rates have one entry per bound.
  have hsize : (setting.distances family
      (setting.state.current.primal family.block).entries).length
      = (((setting.problem.limits family).rates family.side
        (direction.primal family.block).entries).map (· * a)).length := by
    rw [hsound.length_distances, List.length_map, Limits.length_rates, hsound.selection_size]
  rw [Iterate.entries_of_takeStep hcurrent hdirection hstep, distances,
    Limits.distances_step _ _ hlength]
  refine (Linear.getD_add hsize n).trans ?_
  rw [Linear.getD_map_mul, mul_comm]

/-- The multipliers of the trial point. -/
theorem Sound.multiplier_of_takeStep (hsound : setting.Sound)
    (hdirection : direction.Fits setting.dims)
    (hstep : (setting.state.current.takeStep a b direction).run supply = (.ok trial, supply'))
    (family : Family) (n : Nat) :
    (trial.multipliers.get family).entries.getD n 0
      = (setting.state.current.multipliers.get family).entries.getD n 0
        + b * (direction.multipliers.get family).entries.getD n 0 := by
  have hcurrent := hsound.valid.current
  have hentries : (trial.multipliers.get family).entries = _ :=
    Iterate.component_of_takeStep hcurrent hdirection hstep (.multiplier family)
  have hsize : (setting.state.current.multipliers.get family).entries.length
      = ((direction.multipliers.get family).entries.map (· * b)).length := by
    rw [List.length_map]
    exact (hcurrent (.multiplier family)).symm.trans (hdirection (.multiplier family))
  rw [hentries]
  refine (Linear.getD_add hsize n).trans ?_
  rw [Linear.getD_map_mul, mul_comm]

variable [IsStrictOrderedRing K] {tau : K} {family : Family} {slack trialSlack : List K}

/-- A step whose lengths suit the slacks and the multipliers of a family
keeps what it has to keep. -/
theorem Sound.staysInside (hsound : setting.Sound) (hdirection : direction.Fits setting.dims)
    (hstep : (setting.state.current.takeStep a b direction).run supply = (.ok trial, supply'))
    (hslack : List.Forall₂ (Slack.Corrects setting.mu)
      (setting.distances family (setting.state.current.primal family.block).entries) slack)
    (htrialSlack : List.Forall₂ (Slack.Corrects setting.mu)
      (setting.distances family (trial.primal family.block).entries) trialSlack)
    (ha : StepLimit.Suits tau a slack ((setting.problem.limits family).rates family.side
      (direction.primal family.block).entries))
    (hb : StepLimit.Suits tau b (setting.state.current.multipliers.get family).entries
      (direction.multipliers.get family).entries) {n : Nat}
    (hn : n < setting.dims.bounds.get family) :
    setting.StaysInside tau trial family slack trialSlack n := by
  have hdistances := hsound.length_distances family
  have hslackLength := hslack.length_eq.symm.trans (hdistances _)
  refine ⟨fun hsame => ?_, fun hnonneg => ?_⟩
  · have hcorrects := Slack.Corrects.getD hslack (n := n) (by rwa [hdistances])
    have hcorrects' := Slack.Corrects.getD htrialSlack (n := n) (by rwa [hdistances])
    have hpos : 0 < slack.getD n 0 := (Slack.least_pos _).trans_le hcorrects.least_le
    have hrates := Limits.length_rates (setting.problem.limits family) family.side
      (direction.primal family.block).entries
    have hkeeps := ha.getD (hslackLength.trans (hrates.trans (hsound.selection_size _)).symm)
      (hslackLength.symm ▸ hn) hpos.le
    -- The right side is the distance of the trial point.
    have hmoved := hsound.distance_of_takeStep hdirection hstep family n
    rw [← hsame] at hmoved
    rw [← hmoved] at hkeeps
    refine ⟨hkeeps, hcorrects'.distance_le, fun hfraction => ?_⟩
    exact (mul_pos (sub_pos.2 hfraction) hpos).trans_le hkeeps
  · have hlength := hsound.length_multiplier setting.iterateAt_current family
    have hkeeps := hb.getD (hlength.trans (hdirection (.multiplier family))) (hlength.symm ▸ hn)
      hnonneg
    rw [hsound.multiplier_of_takeStep hdirection hstep]
    refine ⟨hkeeps, fun hfraction hpos => ?_⟩
    exact (mul_pos (sub_pos.2 hfraction) hpos).trans_le hkeeps

end Setting

variable [IsStrictOrderedRing K]

/-- What an engine answers for the fraction `tau` are limits in `[0, 1]`
that suit the slacks it answers and the multipliers. -/
theorem Session.exists_stepLimits {pool : Pool K} {engine : Engine K} (h : Session pool engine)
    {direction : Iterate K} (hdirection : engine.setting.state.direction = some direction)
    {tau : K} (htau : 0 < tau) (htau' : tau ≤ 1) {slack : Family → List K}
    (hslack : ∀ family, engine.setting.value (.slack .current family) = .ok (slack family))
    (hlength : ∀ family, (slack family).length = engine.setting.dims.bounds.get family) :
    ∃ alpha beta : K,
      engine.Answers (.primalStepLimitAlongDirection tau) alpha
        ∧ engine.Answers (.dualStepLimitAlongDirection tau) beta
        ∧ (StepLimit.Admits alpha fun a => ∀ family : Family, StepLimit.Suits tau a (slack family)
          ((engine.setting.problem.limits family).rates family.side
            (direction.primal family.block).entries))
        ∧ StepLimit.Admits beta fun b => ∀ family : Family,
          StepLimit.Suits tau b (engine.setting.state.current.multipliers.get family).entries
            (direction.multipliers.get family).entries := by
  have hsound := h.reachable.wellFormed.sound
  have hfits := hsound.valid.direction direction hdirection
  obtain ⟨alpha, halpha, hadmits⟩ :=
    hsound.gives_primalStepLimit htau htau' hfits hslack hlength
  obtain ⟨beta, hbeta, hadmits'⟩ := hsound.gives_dualStepLimit htau htau' hfits
  have hrequire := State.requireDirection_eq_ok.2 hdirection
  -- Along the search direction means for its components.
  have hprimal : (Request.primalStepLimitAlongDirection tau).resolve engine.setting.state
      = .ok (.primalStepLimit tau direction.x direction.s) := by
    simp only [Request.resolve, hrequire]
    rfl
  have hdual : (Request.dualStepLimitAlongDirection tau).resolve engine.setting.state
      = .ok (.dualStepLimit tau direction.multipliers) := by
    simp only [Request.resolve, hrequire]
    rfl
  exact ⟨alpha, beta, h.answers_of_value (.exact _) hprimal (fun _ => trivial) halpha,
    h.answers_of_value (.exact _) hdual (fun _ => trivial) hbeta, hadmits, hadmits'⟩

/-- With a search direction set, an engine answers limits in `[0, 1]` for
every fraction `tau` in `(0, 1]`. After a step whose lengths do not exceed
these limits, every bound keeps its fraction `1 - tau`: the distance of
the trial point to the bound is at least that fraction of the current
slack, unless that slack was corrected, the slack of the trial point is at
least that distance, and a multiplier that is not negative is at least the
fraction of what it was. For `tau < 1` what was positive stays
positive. -/
theorem Session.step_stays_inside {pool : Pool K} {engine : Engine K} (h : Session pool engine)
    {direction : Iterate K} (hdirection : engine.setting.state.direction = some direction)
    {tau : K} (htau : 0 < tau) (htau' : tau ≤ 1) :
    ∃ alpha beta : K,
      engine.Answers (.primalStepLimitAlongDirection tau) alpha
        ∧ engine.Answers (.dualStepLimitAlongDirection tau) beta
        ∧ (0 ≤ alpha ∧ alpha ≤ 1) ∧ (0 ≤ beta ∧ beta ≤ 1)
        ∧ ∀ a b, 0 ≤ a → a ≤ alpha → 0 ≤ b → b ≤ beta →
          let reply := (engine.perform (.change (.trialFromStep a b)) pool.supply).1
          reply.result = .ok ()
            ∧ ∃ trial, reply.engine.setting.state.trial = some trial
              ∧ ∀ family, ∃ answers : engine.StepAnswers reply.engine family,
                answers.slack.length = engine.setting.dims.bounds.get family
                  ∧ answers.trialSlack.length = engine.setting.dims.bounds.get family
                  ∧ ∀ n, n < engine.setting.dims.bounds.get family →
                    engine.setting.StaysInside tau trial family answers.slack
                      answers.trialSlack n := by
  have hsound := h.reachable.wellFormed.sound
  have hfits := hsound.valid.direction direction hdirection
  choose slack hslack hlength hcorrects using hsound.gives_slack engine.setting.iterateAt_current
  obtain ⟨alpha, beta, halpha, hbeta, hadmits, hadmits'⟩ :=
    h.exists_stepLimits hdirection htau htau' hslack hlength
  refine ⟨alpha, beta, halpha, hbeta, ⟨hadmits.nonneg, hadmits.le_one⟩,
    ⟨hadmits'.nonneg, hadmits'.le_one⟩, fun a b ha haAlpha hb hbBeta => ?_⟩
  intro reply
  -- The step is taken, which leads to a session of its own.
  obtain ⟨trial, supply', hstep, hchange⟩ :=
    hsound.valid.exists_trialFromStep hdirection a b pool.supply
  have hreply : reply = { result := .ok (), events := [], engine := { engine with setting :=
      { engine.setting with state := { engine.setting.state with trial := some trial } } } } :=
    congrArg Prod.fst (Engine.changeState_of_changed hchange)
  have hafter : Session _ reply.engine := h.perform (.change (.trialFromStep a b)) trivial
  rw [hreply] at hafter ⊢
  -- There the slacks of the trial point are asked for.
  choose trialSlack htrialSlack htrialLength htrialCorrects using
    hafter.reachable.wellFormed.sound.gives_slack (State.iterateAt_trial_eq_ok.2 rfl)
  refine ⟨rfl, trial, rfl, fun family => ⟨{
      slack := slack family
      trialSlack := trialSlack family
      answers_slack := h.answers_quantity (.exact _) rfl (hslack family)
      answers_trialSlack :=
        hafter.answers_quantity (.exact _) rfl (htrialSlack family) },
    hlength family, htrialLength family, fun n hn => ?_⟩⟩
  exact hsound.staysInside hfits hstep (hcorrects family) (htrialCorrects family)
    (hadmits.of_le a ha haAlpha family) (hadmits'.of_le b hb hbBeta family) hn

/-- From the corner, half of every distance remains after a quarter of the
search direction. -/
theorem Session.step_stays_inside_corner :
    Corner.engine.Answers (.primalStepLimitAlongDirection (1 / 2)) (1 / 4)
      ∧ Corner.engine.Answers (.dualStepLimitAlongDirection (1 / 2)) (1 / 4)
      ∧ let reply := (Corner.engine.perform (.change (.trialFromStep (1 / 4) (1 / 4))) ⟨35⟩).1
        ∃ trial, reply.engine.setting.state.trial = some trial
          ∧ ∀ family, ∃ answers : Corner.engine.StepAnswers reply.engine family,
            ∀ n, n < Corner.engine.setting.dims.bounds.get family →
              Corner.engine.setting.StaysInside (1 / 2) trial family answers.slack
                answers.trialSlack n := by
  have hdirection : Corner.engine.setting.state.direction = some Corner.direction := rfl
  have hhalf : (0 : ℚ) < 1 / 2 ∧ (1 / 2 : ℚ) ≤ 1 := by decide +kernel
  obtain ⟨alpha, beta, halpha, hbeta, -, -, hstep⟩ :=
    Session.step_stays_inside Corner.session hdirection hhalf.1 hhalf.2
  -- Both limits are a quarter, and the step goes all the way.
  have hquarter : (Corner.engine.answer (.primalStepLimitAlongDirection (1 / 2))
      ⟨35⟩).1.result.map Shared.value = .ok (1 / 4) := by decide +kernel
  have hquarter' : (Corner.engine.answer (.dualStepLimitAlongDirection (1 / 2))
      ⟨35⟩).1.result.map Shared.value = .ok (1 / 4) := by decide +kernel
  cases (halpha.now ⟨35⟩).symm.trans hquarter
  cases (hbeta.now ⟨35⟩).symm.trans hquarter'
  have hzero : (0 : ℚ) ≤ 1 / 4 := by decide +kernel
  obtain ⟨-, trial, htrial, hinside⟩ :=
    hstep (1 / 4) (1 / 4) hzero (le_refl _) hzero (le_refl _)
  refine ⟨halpha, hbeta, trial, htrial, fun family => ?_⟩
  obtain ⟨answers, -, -, hstays⟩ := hinside family
  exact ⟨answers, hstays⟩

end InteriorPoint
