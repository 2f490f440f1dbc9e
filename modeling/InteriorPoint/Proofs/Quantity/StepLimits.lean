import InteriorPoint.Proofs.StepLimit
import InteriorPoint.Proofs.Quantity.Slacks

/-!
# `InteriorPoint.Proofs.Quantity.StepLimits`: what the step limits are

Every family has a limit of its own. For a step of the variables it is
`Setting.slackLimit`, computed from the slacks of the family and from how
they move (`Limits.moves`). The step limits of the engine are minima of
these. The one for the variables is a minimum over the blocks of minima
over their sides (`Sound.value_primalStepLimit`). Those for given steps of
the slacks and of the multipliers run through all families, starting from
one (`value_slackStepLimit`, `Sound.value_dualStepLimit`). None of
this is about arithmetic.

In exact arithmetic a length up to a minimum is a length up to each of its
parts. So it suits the slacks of every family along the rates at which the
distances change (`Sound.gives_primalStepLimit`), and the multipliers of
every family along their steps (`Sound.gives_dualStepLimit`).
-/

set_option autoImplicit false

namespace InteriorPoint

open Checked (Gives)
open StepLimit (Admits Suits)

/-! ### The limits as minima -/

section
variable {α : Type} [Scalar α]

/-- How the slacks on a side move along a step of the full space: as the
selected variables do, or in the opposite direction. -/
def Limits.moves (limits : Limits α) : Side → List α → List α
  | .lower, step => limits.selection.indices.map (step.getD · 0)
  | .upper, step => Linear.neg (limits.selection.indices.map (step.getD · 0))

/-- The slacks on a side move in as many entries as there are bounds. -/
theorem Limits.length_moves (limits : Limits α) (side : Side) (step : List α) :
    (limits.moves side step).length = limits.selection.size := by
  cases side <;> simp [moves, Linear.neg, Selection.size]

namespace Setting

/-- The limit that the slacks of one family set to a step of the
variables. -/
def slackLimit (setting : Setting α) (tau : α) (slack : Family → List α)
    (step : Block → TaggedVector α) (family : Family) : α :=
  StepLimit.limit tau (slack family)
    ((setting.problem.limits family).moves family.side (step family.block).entries)

variable {setting : Setting α} {tau : α} {slack : Family → List α} {step : Block → TaggedVector α}

/-- The limit of a family exists, since the slacks and their moves have
the same size. -/
theorem Sound.fractionToBoundary_moves (hsound : setting.Sound)
    (hlength : ∀ family, (slack family).length = setting.dims.bounds.get family)
    (family : Family) :
    StepLimit.fractionToBoundary tau (slack family)
        ((setting.problem.limits family).moves family.side (step family.block).entries)
      = .ok (setting.slackLimit tau slack step family) := by
  refine StepLimit.fractionToBoundary_eq_limit ?_
  rw [hlength, Limits.length_moves, hsound.selection_size]

/-- The limit of a block is the smaller one of its two sides. -/
theorem Sound.eval_blockStepLimit (hsound : setting.Sound)
    (hslack : ∀ family, setting.value (.slack .current family) = .ok (slack family))
    (hlength : ∀ family, (slack family).length = setting.dims.bounds.get family)
    (hstep : ∀ block, (step block).entries.length = setting.blockSize block) (block : Block)
    {bound : Nat} (lower : 0 < bound) :
    setting.eval (Quantity.blockStepLimit setting block tau (step block) lower)
      = .ok (Scalar.min (setting.slackLimit tau slack step ⟨block, .lower⟩)
          (setting.slackLimit tau slack step ⟨block, .upper⟩)) := by
  have hask : ∀ side, setting.eval (Program.value (.slack .current ⟨block, side⟩) lower)
      = .ok (slack ⟨block, side⟩) := fun side =>
    (eval_value setting _ lower).trans (hslack ⟨block, side⟩)
  have hselect : ∀ side, (setting.problem.limits ⟨block, side⟩).selection.select
      (step block).entries = .ok _ := fun side =>
    Selection.select_eq_ok _ ((hstep block).trans (hsound.selection_dim block side).symm)
  have hlowerSelect : (setting.problem.bounds block).lower.selection.select
      (step block).entries = .ok _ := hselect .lower
  have hupperSelect : (setting.problem.bounds block).upper.selection.select
      (step block).entries = .ok _ := hselect .upper
  -- The selected entries of the step are how the slacks move, up to the sign.
  have hlowerLimit : StepLimit.fractionToBoundary tau (slack ⟨block, .lower⟩)
      ((setting.problem.limits ⟨block, .lower⟩).selection.indices.map
        ((step block).entries.getD · 0)) = .ok _ :=
    hsound.fractionToBoundary_moves hlength ⟨block, .lower⟩
  have hupperLimit : StepLimit.fractionToBoundary tau (slack ⟨block, .upper⟩)
      (Linear.neg ((setting.problem.limits ⟨block, .upper⟩).selection.indices.map
        ((step block).entries.getD · 0))) = .ok _ :=
    hsound.fractionToBoundary_moves hlength ⟨block, .upper⟩
  unfold Quantity.blockStepLimit
  simp only [eval_bind, eval_lift, eval_pure, hask, hlowerSelect, hupperSelect, Checked.ok_bind,
    hlowerLimit, hupperLimit]
  rfl

/-- The limit for the variables: of the blocks the smaller one, and of each
block that of its sides. -/
theorem Sound.value_primalStepLimit (hsound : setting.Sound) (htau : 0 < tau) (htau' : tau ≤ 1)
    (hslack : ∀ family, setting.value (.slack .current family) = .ok (slack family))
    (hlength : ∀ family, (slack family).length = setting.dims.bounds.get family)
    (hstep : ∀ block, (step block).entries.length = setting.blockSize block) :
    setting.value (.primalStepLimit tau (step .x) (step .s))
      = .ok (Scalar.min
          (Scalar.min (setting.slackLimit tau slack step ⟨.x, .lower⟩)
            (setting.slackLimit tau slack step ⟨.x, .upper⟩))
          (Scalar.min (setting.slackLimit tau slack step ⟨.s, .lower⟩)
            (setting.slackLimit tau slack step ⟨.s, .upper⟩))) := by
  -- None of the three checks before the key refuses.
  have hfraction : (StepLimit.ensureFraction tau : Checked α Unit) = .ok () :=
    if_pos ⟨htau, htau'⟩
  have hxSize : (ensureSize "delta_x length" setting.dims.x (step .x).size : Checked α Unit)
      = .ok () := ensureSize_eq_ok.2 (hstep .x).symm
  have hsSize : (ensureSize "delta_s length" setting.dims.s (step .s).size : Checked α Unit)
      = .ok () := ensureSize_eq_ok.2 (hstep .s).symm
  rw [value_eq]
  simp only [key, Quantity.formula, hfraction, hxSize, hsSize, Checked.ok_bind, pure_bind,
    eval_bind, eval_pure, hsound.eval_blockStepLimit hslack hlength hstep]
  rfl

/-- The limit for given steps of the slacks: the smallest of one and of the
limits of all families. -/
theorem value_slackStepLimit (htau : 0 < tau) (htau' : tau ≤ 1)
    {steps : PerFamily (TaggedVector α)} {slack : Family → List α}
    (hslack : ∀ family, setting.value (.slack .current family) = .ok (slack family))
    (hlength : ∀ family, (slack family).length = setting.dims.bounds.get family)
    (hsteps : ∀ family, (steps.get family).size = setting.dims.bounds.get family) :
    setting.value (.slackStepLimit tau steps)
      = .ok (Family.all.foldl (fun lowest family => Scalar.min lowest
          (StepLimit.limit tau (slack family) (steps.get family).entries)) 1) := by
  have hfraction : (StepLimit.ensureFraction tau : Checked α Unit) = .ok () :=
    if_pos ⟨htau, htau'⟩
  have hsizes : setting.ensureStepSizes "slack step" steps = .ok () :=
    (Checked.forM_eq_ok _ _).2 fun family _ => ensureSize_eq_ok.2 (hsteps family).symm
  -- The limit of every family exists, and is asked for in turn.
  have hown : ∀ family, StepLimit.fractionToBoundary tau (slack family)
      (steps.get family).entries = .ok _ := fun family =>
    StepLimit.fractionToBoundary_eq_limit ((hlength family).trans (hsteps family).symm)
  rw [value_eq]
  simp only [key, Quantity.formula, hfraction, hsizes, Checked.ok_bind, pure_bind, eval_foldlM,
    eval_bind, eval_lift, eval_pure, eval_value, hslack, hown]
  exact List.foldlM_pure

/-- The limit for steps of the multipliers, in the same way. -/
theorem Sound.value_dualStepLimit (hsound : setting.Sound) (htau : 0 < tau) (htau' : tau ≤ 1)
    {steps : PerFamily (TaggedVector α)}
    (hsteps : ∀ family, (steps.get family).size = setting.dims.bounds.get family) :
    setting.value (.dualStepLimit tau steps)
      = .ok (Family.all.foldl (fun lowest family => Scalar.min lowest
          (StepLimit.limit tau (setting.state.current.multipliers.get family).entries
            (steps.get family).entries)) 1) := by
  have hfraction : (StepLimit.ensureFraction tau : Checked α Unit) = .ok () :=
    if_pos ⟨htau, htau'⟩
  have hsizes : setting.ensureStepSizes "bound multiplier step" steps = .ok () :=
    (Checked.forM_eq_ok _ _).2 fun family _ => ensureSize_eq_ok.2 (hsteps family).symm
  have hown : ∀ family, StepLimit.fractionToBoundary tau
      (setting.state.current.multipliers.get family).entries (steps.get family).entries
        = .ok _ := fun family =>
    StepLimit.fractionToBoundary_eq_limit
      ((hsound.length_multiplier setting.iterateAt_current family).trans (hsteps family).symm)
  rw [value_eq]
  simp only [key, Quantity.formula, hfraction, hsizes, Checked.ok_bind, pure_bind, eval_foldlM,
    eval_bind, eval_lift, eval_pure, hown]
  exact List.foldlM_pure

end Setting

end

/-! ### Exact arithmetic -/

variable {K : Type} [Field K] [LinearOrder K] [ExactFunctions K]

/-- In exact arithmetic the slacks move at the rates of the distances. -/
theorem Limits.rates_eq_moves (limits : Limits K) (side : Side) (step : List K) :
    limits.rates side step = limits.moves side step := by
  cases side with
  | lower => exact limits.rates_lower step
  | upper => exact limits.rates_upper step

variable [IsStrictOrderedRing K]

namespace Setting

variable {setting : Setting K} {tau : K}

/-- The limit of a family suits its slacks. -/
theorem slackLimit_admits (htau : 0 ≤ tau) (slack : Family → List K)
    (step : Block → TaggedVector K) (family : Family) :
    Admits (setting.slackLimit tau slack step family) (Suits tau · (slack family)
      ((setting.problem.limits family).rates family.side (step family.block).entries)) := by
  rw [Limits.rates_eq_moves]
  exact StepLimit.limit_admits htau _ _

/-- The step limit for the primal variables suits the slacks of all
families. -/
theorem Sound.gives_primalStepLimit (hsound : setting.Sound) (htau : 0 < tau) (htau' : tau ≤ 1)
    {direction : Iterate K} (hdirection : direction.Fits setting.dims) {slack : Family → List K}
    (hslack : ∀ family, setting.value (.slack .current family) = .ok (slack family))
    (hlength : ∀ family, (slack family).length = setting.dims.bounds.get family) :
    Gives (setting.value (.primalStepLimit tau direction.x direction.s))
      (Admits · fun a => ∀ family : Family, Suits tau a (slack family)
        ((setting.problem.limits family).rates family.side
          (direction.primal family.block).entries)) := by
  have hstep : ∀ block, (direction.primal block).entries.length = setting.blockSize block := by
    intro block
    cases block with
    | x => exact (hdirection .x).symm
    | s => exact (hdirection .s).symm
  have hadmits := @slackLimit_admits _ _ _ _ _ setting _ htau.le slack direction.primal
  refine .of_eq (hsound.value_primalStepLimit htau htau' hslack hlength hstep) ?_
  -- A minimum suits whatever one of its arguments suits.
  refine (((hadmits _).min (hadmits _)).min ((hadmits _).min (hadmits _))).imp ?_
  rintro a ⟨⟨hxLower, hxUpper⟩, hsLower, hsUpper⟩ ⟨_ | _, _ | _⟩
  · exact hxLower
  · exact hxUpper
  · exact hsLower
  · exact hsUpper

/-- The step limit for the bound multipliers suits those of all
families. -/
theorem Sound.gives_dualStepLimit (hsound : setting.Sound) (htau : 0 < tau) (htau' : tau ≤ 1)
    {direction : Iterate K} (hdirection : direction.Fits setting.dims) :
    Gives (setting.value (.dualStepLimit tau direction.multipliers))
      (Admits · fun a => ∀ family : Family,
        Suits tau a (setting.state.current.multipliers.get family).entries
          (direction.multipliers.get family).entries) := by
  have hsteps : ∀ family, (direction.multipliers.get family).size
      = setting.dims.bounds.get family := fun family => (hdirection (.multiplier family)).symm
  -- The minimum starts from one, which asks for nothing.
  have hone : Admits (1 : K) fun _ => True := ⟨zero_le_one, le_refl _, fun _ _ _ => trivial⟩
  refine .of_eq (hsound.value_dualStepLimit htau htau' hsteps) ?_
  refine (hone.foldl_min (fun family => StepLimit.limit_admits htau.le _ _) Family.all).imp ?_
  exact fun a ha family => ha.2 family family.mem_all

end Setting

end InteriorPoint
