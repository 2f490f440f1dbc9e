import InteriorPoint.Proofs.Quantity.StepLimits

/-!
# `InteriorPoint.Proofs.Quantity.SlackSteps`: one limit, computed in two ways

A step of the variables moves the slacks of a family along the selected
entries of the step, on the upper side in the opposite direction
(`Limits.slackStep`). The limit for these steps of the slacks is the limit
for the variables, up to the sign of zero
(`Setting.Sound.stepLimits_same`).

The two are put together differently from the limits of the four families
(`Setting.Sound.value_primalStepLimit`, `Setting.value_slackStepLimit`),
but both are the greatest lower bound of these (`Scalar.same_min_foldl`).
Entries may be undefined or infinite. What is needed is that every limit is
a number and at most one (`StepLimit.limit_le_one`), so that neither a
minimum nor its start from one passes over anything.
-/

set_option autoImplicit false

namespace InteriorPoint

variable {α : Type} [Scalar α]

/-- The steps of the slacks on one side that go with a step of the full
space. -/
def Limits.slackStep (limits : Limits α) (side : Side) (step : List α) : Checked α (List α) := do
  let selected ← limits.selection.select step
  match side with
  | .lower => return selected
  | .upper => return Linear.neg selected

/-- A step of the full space always goes with steps of the slacks, which
are how the slacks move. -/
theorem Limits.slackStep_eq_ok {limits : Limits α} {side : Side} {step : List α}
    (h : step.length = limits.selection.dim) :
    limits.slackStep side step = .ok (limits.moves side step) := by
  rw [slackStep, limits.selection.select_eq_ok h]
  cases side <;> rfl

variable [LawfulComparison α]

/-- The smallest of four numbers that are at most one, taken by blocks and
taken in a row from one. -/
theorem Scalar.same_min_foldl {limit : Family → α} (hle : ∀ family, limit family ≤ 1) :
    Same
      (min (min (limit ⟨.x, .lower⟩) (limit ⟨.x, .upper⟩))
        (min (limit ⟨.s, .lower⟩) (limit ⟨.s, .upper⟩)))
      (Family.all.foldl (fun lowest family => min lowest (limit family)) 1) := by
  have hnumber : ∀ family, IsNumber (limit family) := fun family =>
    LawfulComparison.isNumber_left (hle family)
  have hblock : ∀ block, IsNumber (min (limit ⟨block, .lower⟩) (limit ⟨block, .upper⟩)) :=
    fun block => isNumber_min (hnumber _) (hnumber _)
  have hone : IsNumber (1 : α) := LawfulComparison.isNumber_right (hle ⟨.x, .lower⟩)
  obtain ⟨hfoldNumber, hfold⟩ := le_foldl_min_iff hnumber Family.all hone
  -- Both have the same lower bounds.
  refine same_of_le_iff (isNumber_min (hblock .x) (hblock .s)) hfoldNumber fun c => ?_
  rw [hfold, le_min_iff (hblock .x) (hblock .s), le_min_iff (hnumber _) (hnumber _),
    le_min_iff (hnumber _) (hnumber _)]
  constructor
  · rintro ⟨⟨hxLower, hxUpper⟩, hsLower, hsUpper⟩
    refine ⟨LawfulComparison.le_trans hxLower (hle _), ?_⟩
    rintro ⟨_ | _, _ | _⟩ -
    · exact hxLower
    · exact hxUpper
    · exact hsLower
    · exact hsUpper
  · rintro ⟨-, hall⟩
    have hc : ∀ family, c ≤ limit family := fun family => hall family family.mem_all
    exact ⟨⟨hc _, hc _⟩, hc _, hc _⟩

/-- Both limits have values, and these are equal. -/
theorem Setting.Sound.stepLimits_same {setting : Setting α} (hsound : setting.Sound) {tau : α}
    (htau : 0 < tau) (htau' : tau ≤ 1) {step : Block → TaggedVector α}
    {steps : PerFamily (TaggedVector α)}
    (hstep : ∀ block, (step block).entries.length = setting.blockSize block)
    (hsteps : ∀ family : Family, (setting.problem.limits family).slackStep family.side
      (step family.block).entries = .ok (steps.get family).entries) :
    ∃ primal slack, setting.value (.primalStepLimit tau (step .x) (step .s)) = .ok primal
      ∧ setting.value (.slackStepLimit tau steps) = .ok slack ∧ Scalar.Same primal slack := by
  have hone : (0 : α) ≤ 1 := LawfulComparison.le_trans (Scalar.le_of_lt htau) htau'
  choose slack hslack hlength _ using hsound.gives_slack setting.iterateAt_current
  -- The given steps of the slacks are those that go with the step.
  have hmoves : ∀ family : Family, (steps.get family).entries
      = (setting.problem.limits family).moves family.side (step family.block).entries := by
    intro family
    have hfits := (hstep family.block).trans (hsound.selection_dim family.block family.side).symm
    exact Except.ok.inj ((hsteps family).symm.trans (Limits.slackStep_eq_ok hfits))
  have hsize : ∀ family, (steps.get family).size = setting.dims.bounds.get family := by
    intro family
    rw [TaggedVector.size, hmoves, Limits.length_moves, hsound.selection_size]
  have hprimal := hsound.value_primalStepLimit htau htau' hslack hlength hstep
  have hslackSteps := value_slackStepLimit htau htau' hslack hlength hsize
  simp only [hmoves] at hslackSteps
  exact ⟨_, _, hprimal, hslackSteps,
    Scalar.same_min_foldl fun family => StepLimit.limit_le_one hone _ _⟩

end InteriorPoint
