import InteriorPoint.Proofs.Engine.Answers
import InteriorPoint.Proofs.Quantity.Coordinates

/-!
# `InteriorPoint.Proofs.Engine.Coordinates`: assembled vectors, coordinate by coordinate

An engine puts the gradient of the Lagrangian and the primal-dual scaling of a
block together from vectors over the bounds of either side.
`Session.coordinates_eq` says what stands at every single coordinate of an
answer. This is exact arithmetic.

The scaling divides by the slacks that the engine answers, which may have been
corrected. They are positive in any case, so the scaling always exists, and it
has no negative entry where no multiplier is negative.
-/

set_option autoImplicit false

namespace InteriorPoint

/-- What an engine answers about the slacks and the scaling of a block. -/
structure Engine.ScalingAnswers {α : Type} [Scalar α] (engine : Engine α) (block : Block) where
  slack : Side → List α
  scaling : List α
  answers_slack : ∀ side, engine.Answers (.quantity (.slack .current ⟨block, side⟩)) (slack side)
  answers_scaling : engine.Answers (.quantity (.primalDualScaling block)) scaling

variable {K : Type} [Field K] [LinearOrder K] [ExactFunctions K]

/-- The scaling and the slacks of a block always have values, and the slacks
are positive. -/
theorem Setting.Sound.exists_scaling [IsStrictOrderedRing K] {setting : Setting K}
    (hsound : setting.Sound) (block : Block) :
    ∃ (slack : Side → List K) (scaling : List K),
      (∀ side, setting.value (.slack .current ⟨block, side⟩) = .ok (slack side))
        ∧ setting.value (.primalDualScaling block) = .ok scaling
        ∧ (∀ side, (slack side).length = (setting.selection block side).size)
        ∧ (∀ side, ∀ d ∈ slack side, 0 < d)
        ∧ scaling.length = setting.blockSize block
        ∧ ∀ i, i < setting.blockSize block → scaling.getD i 0
          = (setting.selection block .lower).contribution (fun k =>
              (setting.multiplier block .lower).getD k 0 / (slack .lower).getD k 0) i
            + (setting.selection block .upper).contribution (fun k =>
              (setting.multiplier block .upper).getD k 0 / (slack .upper).getD k 0) i := by
  choose slack hslack hlength hcorrects using fun side =>
    hsound.gives_slack setting.iterateAt_current ⟨block, side⟩
  obtain ⟨scaling, hscaling, hsize, hentry⟩ := hsound.gives_primalDualScaling hslack hlength
  refine ⟨slack, scaling, hslack, hscaling, ?_, ?_, hsize, hentry⟩
  · intro side
    exact (hlength side).trans (hsound.selection_size ⟨block, side⟩).symm
  · -- A corrected slack is at least the least slack, which is positive.
    intro side d hd
    exact (Slack.least_pos _).trans_le (Slack.least_le_of_corrects (hcorrects side) d hd)

/-- The quotient of a multiplier that is not negative and a positive slack. -/
theorem Selection.contribution_div_nonneg [IsStrictOrderedRing K] {selection : Selection}
    {multiplier slack : List K} (hlength : multiplier.length = selection.size)
    (hsize : slack.length = selection.size) (hmultiplier : ∀ z ∈ multiplier, 0 ≤ z)
    (hslack : ∀ d ∈ slack, 0 < d) (i : Nat) :
    0 ≤ selection.contribution (fun k => multiplier.getD k 0 / slack.getD k 0) i := by
  refine contribution_nonneg (fun k hk => ?_) i
  have hz : k < multiplier.length := by omega
  have hd : k < slack.length := by omega
  rw [List.getD_eq_getElem _ _ hz, List.getD_eq_getElem _ _ hd]
  exact div_nonneg (hmultiplier _ (List.getElem_mem hz)) (hslack _ (List.getElem_mem hd)).le

/-- In every session an assembled vector has its defining value at every
coordinate of the block.

Where the gradient of the Lagrangian is answered, coordinate `i` has the entry
of the objective, plus the constraint terms, minus the multiplier of the lower
bound on `i` and plus that of the upper bound, if `i` has such a bound.

The scaling is always answered. Coordinate `i` has for each of its bounds the
multiplier divided by the slack. It is zero if `i` has no bound, and with
multipliers that are not negative it is not negative either. -/
theorem Session.coordinates_eq [IsStrictOrderedRing K] {pool : Pool K} {engine : Engine K}
    (h : Session pool engine) (block : Block) :
    let setting := engine.setting
    (∀ {gradient : List K} {supply : Supply},
      (engine.answer (.quantity (.lagrangianGradient block)) supply).1.result.map Shared.value
          = .ok gradient →
        gradient.length = setting.blockSize block
          ∧ ∀ i, i < setting.blockSize block → gradient.getD i 0
            = (setting.objectivePart block).getD i 0 + setting.constraintTerm block i
              - (setting.selection block .lower).contribution
                  ((setting.multiplier block .lower).getD · 0) i
              + (setting.selection block .upper).contribution
                  ((setting.multiplier block .upper).getD · 0) i)
      ∧ ∃ answers : engine.ScalingAnswers block,
        (∀ side, (answers.slack side).length = (setting.selection block side).size)
          ∧ answers.scaling.length = setting.blockSize block
          ∧ (∀ i, i < setting.blockSize block → answers.scaling.getD i 0
            = (setting.selection block .lower).contribution (fun k =>
                (setting.multiplier block .lower).getD k 0 / (answers.slack .lower).getD k 0) i
              + (setting.selection block .upper).contribution (fun k =>
                (setting.multiplier block .upper).getD k 0 / (answers.slack .upper).getD k 0) i)
          ∧ (∀ i, (∀ side, i ∉ (setting.selection block side).indices) →
            answers.scaling.getD i 0 = 0)
          ∧ ((∀ side, ∀ z ∈ setting.multiplier block side, 0 ≤ z) →
            ∀ entry ∈ answers.scaling, 0 ≤ entry) := by
  intro setting
  have hsound := h.reachable.wellFormed.sound
  constructor
  · intro gradient supply hanswer
    exact hsound.lagrangianGradient_contribution
      (h.value_of_answer (.exact _) rfl (Request.known_quantity rfl pool) hanswer)
  obtain ⟨slack, scaling, hslack, hscaling, hsize, hpos, hlength, hentry⟩ :=
    hsound.exists_scaling block
  let answers : engine.ScalingAnswers block :=
    { slack, scaling
      answers_slack := fun side =>
        h.answers_quantity (.exact _) rfl (hslack side)
      answers_scaling := h.answers_quantity (.exact _) rfl hscaling }
  refine ⟨answers, hsize, hlength, hentry, ?_, ?_⟩
  · intro i hfree
    by_cases hi : i < setting.blockSize block
    · show scaling.getD i 0 = 0
      rw [hentry i hi, Selection.contribution_eq_zero (hfree .lower),
        Selection.contribution_eq_zero (hfree .upper), add_zero]
    · -- Beyond the block there is no entry.
      have hout : scaling.length ≤ i := hlength.trans_le (Nat.le_of_not_lt hi)
      exact List.getD_eq_default _ _ hout
  · intro hmultiplier entry hmem
    obtain ⟨i, hi, rfl⟩ := List.getElem_of_mem hmem
    have hterm := fun side => Selection.contribution_div_nonneg
      (hsound.length_multiplier_eq_size side) (hsize side) (hmultiplier side) (hpos side) i
    have hvalue := hentry i (hlength ▸ hi)
    rw [List.getD_eq_getElem _ _ hi] at hvalue
    show 0 ≤ scaling[i]
    rw [hvalue]
    exact add_nonneg (hterm .lower) (hterm .upper)

/-- In the corner the second variable is bounded on both sides, and the slack of
the first one is corrected. -/
theorem Session.coordinates_eq_corner :
    0 < Corner.engine.setting.collapsed .xLower Corner.current.x.entries
      ∧ ([2, 2] : List ℚ).getD 1 0 = (Corner.engine.setting.objectivePart .x).getD 1 0
          + Corner.engine.setting.constraintTerm .x 1 - 1 + 1
      ∧ ∃ answers : Corner.engine.ScalingAnswers .x,
        answers.scaling.getD 0 0 = 2 / (1 / 2) + 0
          ∧ answers.scaling.getD 1 0 = 1 / 2 + 1 / 2
          ∧ ∀ entry ∈ answers.scaling, 0 ≤ entry := by
  obtain ⟨hlagrangian, answers, -, -, hentry, -, hnonneg⟩ :=
    Session.coordinates_eq Corner.session .x
  have hanswer : (Corner.engine.answer (.quantity (.lagrangianGradient .x)) ⟨35⟩).1.result.map
      Shared.value = .ok [2, 2] := by decide +kernel
  have hlower : (Corner.engine.answer (.quantity (.slack .current .xLower)) ⟨35⟩).1.result.map
      Shared.value = .ok [1 / 2, 2] := by decide +kernel
  have hupper : (Corner.engine.answer (.quantity (.slack .current .xUpper)) ⟨35⟩).1.result.map
      Shared.value = .ok [2] := by decide +kernel
  -- The slacks are the ones that the engine answers.
  have hslackLower : answers.slack .lower = [1 / 2, 2] :=
    Except.ok.inj (((answers.answers_slack .lower).now ⟨35⟩).symm.trans hlower)
  have hslackUpper : answers.slack .upper = [2] :=
    Except.ok.inj (((answers.answers_slack .upper).now ⟨35⟩).symm.trans hupper)
  have hmultiplier : ∀ side, ∀ z ∈ Corner.engine.setting.multiplier .x side, 0 ≤ z := by
    intro side
    cases side <;> decide +kernel
  rw [hslackLower, hslackUpper] at hentry
  exact ⟨by decide +kernel, (hlagrangian hanswer).2 1 (by decide), answers, hentry 0 (by decide),
    hentry 1 (by decide), hnonneg hmultiplier⟩

end InteriorPoint
