import InteriorPoint.Proofs.Quantity.SignedZero
import InteriorPoint.Proofs.Quantity.Value
import InteriorPoint.Proofs.Slack

/-!
# `InteriorPoint.Proofs.Quantity.Congruence`: what a value reads of its setting

For every quantity there is a lemma that two settings give it the same
value if they agree on what the value reads. The settings have the same
problem, options and sizes throughout (`Setting.SameFrame`). What else
has to agree differs from quantity to quantity, and the hypotheses say
it: the entries of one component, a whole iterate, the barrier
parameter.

Of the barrier parameter it is enough that both settings agree up to the
sign of a zero. The values are equal then (`value_…_congr`), but for the
four quantities that show the sign, which are the same up to the signs of
zeros (`value_…_alike`).

The lemmas follow the layers of the quantities from the bottom upwards.
Each rewrites with those of the quantities its formula asks for.
-/

set_option autoImplicit false

namespace InteriorPoint

namespace Setting

/-- The settings agree on what is not part of a key. -/
structure SameFrame {α : Type} (s₁ s₂ : Setting α) : Prop where
  problem : s₁.problem = s₂.problem
  options : s₁.options = s₂.options
  damping : s₁.damping = s₂.damping
  dims : s₁.dims = s₂.dims

namespace SameFrame

variable {α : Type} {s₁ s₂ s₃ : Setting α}

/-- A setting shares its frame with itself. -/
theorem refl (setting : Setting α) : setting.SameFrame setting :=
  ⟨rfl, rfl, rfl, rfl⟩

/-- A common frame does not depend on the order of the settings. -/
theorem symm (h : s₁.SameFrame s₂) : s₂.SameFrame s₁ :=
  ⟨h.problem.symm, h.options.symm, h.damping.symm, h.dims.symm⟩

/-- A common frame carries over from one pair of settings to the next. -/
theorem trans (h : s₁.SameFrame s₂) (h' : s₂.SameFrame s₃) : s₁.SameFrame s₃ :=
  ⟨h.problem.trans h'.problem, h.options.trans h'.options, h.damping.trans h'.damping,
    h.dims.trans h'.dims⟩

end SameFrame

section
variable {α : Type} {s₁ s₂ : Setting α} (h : s₁.SameFrame s₂)
include h

/-- The number of constraints belongs to the frame. -/
theorem groupSize_congr (group : Group) : s₁.groupSize group = s₂.groupSize group := by
  cases group <;> simp [groupSize, h.dims]

/-- The number of variables belongs to the frame. -/
theorem blockSize_congr (block : Block) : s₁.blockSize block = s₂.blockSize block := by
  cases block <;> simp [blockSize, h.dims]

end

variable {α : Type} [Scalar α] {bound : Nat} {s₁ s₂ : Setting α}

-- Every lemma below opens the key and the formula of its quantity.
attribute [local simp] Setting.key Quantity.formula

/-- A program that asks for a quantity reads its value. -/
theorem eval_value_congr {q₁ q₂ : Quantity α .scalar} (h : s₁.value q₁ = s₂.value q₂)
    (l₁ : q₁.rank < bound) (l₂ : q₂.rank < bound) :
    s₁.eval (β := α) (Program.value q₁ l₁) = s₂.eval (β := α) (Program.value q₂ l₂) :=
  (eval_value s₁ q₁ l₁).trans (h.trans (eval_value s₂ q₂ l₂).symm)

/-! ### Quantities of one of the two points

The points `p₁` and `p₂` need not be the same one. What counts is the
iterates found there. -/

section
variable {p₁ p₂ : Point} {i₁ i₂ : Iterate α} (h : s₁.SameFrame s₂)
  (h₁ : s₁.state.iterateAt p₁ = .ok i₁) (h₂ : s₂.state.iterateAt p₂ = .ok i₂)
include h h₁ h₂

/-- A slack reads its block of variables, its multipliers and `mu`, which
only the correction sees. -/
theorem value_slack_congr [LawfulComparison α] [LawfulZero α]
    (hmu : Scalar.Alike s₁.mu s₂.mu) (family : Family)
    (hprimal : i₁.primal family.block = i₂.primal family.block)
    (hmultiplier : i₁.multipliers.get family = i₂.multipliers.get family) :
    s₁.value (.slack p₁ family) = s₂.value (.slack p₂ family) := by
  obtain ⟨block, side⟩ := family
  cases side <;>
    simp [value_eq, h₁, h₂, h.problem, h.options, Slack.safeguard_eq_of_alike hmu, hprimal,
      hmultiplier]

/-- The objective reads `x`. -/
theorem value_objective_congr (hx : i₁.x = i₂.x) :
    s₁.value (.objective p₁) = s₂.value (.objective p₂) := by
  simp [value_eq, h₁, h₂, h.problem, hx]

/-- A constraint reads `x`. -/
theorem value_constraint_congr (hx : i₁.x = i₂.x) (group : Group) :
    s₁.value (.constraint group p₁) = s₂.value (.constraint group p₂) := by
  simp [value_eq, h₁, h₂, h.problem, groupSize_congr h, hx]

/-- The residual of the inequalities reads `x` and `s`. -/
theorem value_inequalityResidual_congr (hx : i₁.x = i₂.x) (hs : i₁.s = i₂.s) :
    s₁.value (.inequalityResidual p₁) = s₂.value (.inequalityResidual p₂) := by
  rw [value_eq, value_eq]
  simp [h₁, h₂, hs, value_constraint_congr h h₁ h₂ hx]

/-- The constraint violation reads `x` and `s`, and the norm of the
options. -/
theorem value_constraintViolation_congr (hx : i₁.x = i₂.x) (hs : i₁.s = i₂.s) :
    s₁.value (.constraintViolation p₁) = s₂.value (.constraintViolation p₂) := by
  rw [value_eq, value_eq]
  simp [h₁, h₂, h.options, value_constraint_congr h h₁ h₂ hx,
    value_inequalityResidual_congr h h₁ h₂ hx hs]

/-- The primal infeasibility reads `x` and `s`. -/
theorem value_primalInfeasibility_congr (hx : i₁.x = i₂.x) (hs : i₁.s = i₂.s) (norm : Norm) :
    s₁.value (.primalInfeasibility p₁ norm) = s₂.value (.primalInfeasibility p₂ norm) := by
  rw [value_eq, value_eq]
  simp [h₁, h₂, value_constraint_congr h h₁ h₂ hx,
    value_inequalityResidual_congr h h₁ h₂ hx hs]

variable [LawfulComparison α] [LawfulZero α] (hmu : Scalar.Alike s₁.mu s₂.mu)
include hmu

omit h₁ h₂ [LawfulComparison α] in
/-- The barrier term is a multiple of `mu`. -/
theorem barrierTerm_alike (slacks : PerFamily (List α)) :
    Checked.Rel Scalar.Alike (barrierTerm s₁ slacks) (barrierTerm s₂ slacks) := by
  unfold barrierTerm
  -- The logarithms are the same on both sides, the factor may differ in the sign of a zero.
  have hbarrier := LawfulZero.mul_alike (LawfulZero.neg_alike hmu)
    (.refl (Scalar.sum (slacks.toList.map fun slack => Scalar.sum (slack.map Scalar.log))))
  simp only [h.options, h.damping]
  split
  · refine .bind (.refl (R := Eq) (fun _ => rfl) _) ?_
    rintro damped _ rfl
    have hdamped := LawfulZero.mul_alike
      (LawfulZero.mul_alike (.refl s₂.options.dampingWeight) hmu) (.refl (Scalar.sum damped))
    exact .ok (LawfulZero.add_alike hbarrier hdamped)
  · exact .ok hbarrier

/-- The barrier objective reads a whole point, and its barrier term shows
the sign of `mu`. It reports `mu` as well, but a report is not part of a
value. -/
theorem value_barrierObjective_alike (hi : i₁ = i₂) :
    Checked.Rel Scalar.Alike (s₁.value (.barrierObjective p₁))
      (s₂.value (.barrierObjective p₂)) := by
  subst hi
  have hslack := fun family => value_slack_congr h h₁ h₂ hmu family rfl rfl
  have hobjective := value_objective_congr h h₁ h₂ rfl
  rw [value_eq, value_eq]
  simp only [Setting.key, h₁, h₂, Checked.ok_bind, pure_bind, Quantity.formula, eval_bind,
    eval_value, eval_slacks, eval_lift, eval_ite, eval_pure, eval_tell, ite_self, hobjective,
    hslack]
  -- Objective and slacks are the same on both sides.
  refine .bind (.refl (R := Eq) (fun _ => rfl) _) ?_
  rintro f _ rfl
  refine .bind (.refl (R := Eq) (fun _ => rfl) _) ?_
  rintro slacks _ rfl
  refine .bind (barrierTerm_alike h hmu slacks) fun term term' hterm => ?_
  exact .ok (LawfulZero.add_alike (.refl f) hterm)

/-- The mean complementarity reads a whole point, and `mu` through the
slacks. -/
theorem value_meanComplementarity_congr (hi : i₁ = i₂) :
    s₁.value (.meanComplementarity p₁) = s₂.value (.meanComplementarity p₂) := by
  subst hi
  have hslack := fun family => value_slack_congr h h₁ h₂ hmu family rfl rfl
  rw [value_eq, value_eq]
  simp [h₁, h₂, h.dims, hslack, Family.all]

end

/-! ### Functions of the current variables and multipliers -/

section
variable (h : s₁.SameFrame s₂)
include h

/-- The gradient of the objective reads `x`. -/
theorem value_objectiveGradient_congr (hx : s₁.state.current.x = s₂.state.current.x) :
    s₁.value .objectiveGradient = s₂.value .objectiveGradient := by
  simp [value_eq, hx, h.problem, h.dims]

/-- A Jacobian reads `x`. -/
theorem value_jacobian_congr (hx : s₁.state.current.x = s₂.state.current.x) (group : Group) :
    s₁.value (.jacobian group) = s₂.value (.jacobian group) := by
  simp [value_eq, hx, h.problem, h.dims, groupSize_congr h]

/-- A product with a Jacobian reads `x` and its vector. -/
theorem value_jacobianTimes_congr (hx : s₁.state.current.x = s₂.state.current.x) (group : Group)
    (v : TaggedVector α) :
    s₁.value (.jacobianTimes group v) = s₂.value (.jacobianTimes group v) := by
  rw [value_eq, value_eq]
  simp [productKey, h.dims, value_jacobian_congr h hx]

/-- A product with a transposed Jacobian reads `x` and its vector. -/
theorem value_jacobianTransposeTimes_congr (hx : s₁.state.current.x = s₂.state.current.x)
    (group : Group) (v : TaggedVector α) :
    s₁.value (.jacobianTransposeTimes group v) = s₂.value (.jacobianTransposeTimes group v) := by
  rw [value_eq, value_eq]
  simp [productKey, groupSize_congr h, value_jacobian_congr h hx]

/-- The Hessian reads `x` and the multipliers of the constraints. -/
theorem value_hessian_congr (hx : s₁.state.current.x = s₂.state.current.x)
    (hyC : s₁.state.current.yC = s₂.state.current.yC)
    (hyD : s₁.state.current.yD = s₂.state.current.yD) :
    s₁.value .hessian = s₂.value .hessian := by
  simp [value_eq, hx, hyC, hyD, h.problem, h.dims]

end

/-! ### Quantities of the whole current point

Those of the Lagrangian do not read `mu`. -/

section
variable (h : s₁.SameFrame s₂) (hcurrent : s₁.state.current = s₂.state.current)
include h hcurrent

/-- The gradient of the Lagrangian reads the current point. -/
theorem value_lagrangianGradient_congr (block : Block) :
    s₁.value (.lagrangianGradient block) = s₂.value (.lagrangianGradient block) := by
  have hx := congrArg Iterate.x hcurrent
  cases block <;> rw [value_eq, value_eq] <;>
    simp [Quantity.addMultiplierGradient, currentKey, hcurrent,
      h.problem, value_objectiveGradient_congr h hx, value_jacobianTransposeTimes_congr h hx]

/-- The dual infeasibility reads the current point. -/
theorem value_dualInfeasibility_congr (norm : Norm) :
    s₁.value (.dualInfeasibility norm) = s₂.value (.dualInfeasibility norm) := by
  rw [value_eq, value_eq]
  simp [currentKey, hcurrent,
    value_lagrangianGradient_congr h hcurrent]

/-- The dual step limit reads the current multipliers. -/
theorem value_dualStepLimit_congr (tau : α) (steps : PerFamily (TaggedVector α)) :
    s₁.value (.dualStepLimit tau steps) = s₂.value (.dualStepLimit tau steps) := by
  simp [value_eq, currentKey, ensureStepSizes, hcurrent, h.dims,
    Family.all]

/-- The primal infeasibility of the current point. -/
theorem value_currentPrimalInfeasibility_congr (norm : Norm) :
    s₁.value (.primalInfeasibility .current norm)
      = s₂.value (.primalInfeasibility .current norm) :=
  value_primalInfeasibility_congr h rfl rfl (congrArg Iterate.x hcurrent)
    (congrArg Iterate.s hcurrent) norm

variable [LawfulComparison α] [LawfulZero α] (hmu : Scalar.Alike s₁.mu s₂.mu)
include hmu

/-- A slack of the current point. -/
theorem value_currentSlack_congr (family : Family) :
    s₁.value (.slack .current family) = s₂.value (.slack .current family) :=
  value_slack_congr h rfl rfl hmu family (by rw [hcurrent]) (by rw [hcurrent])

/-- A request for a slack of the current point. -/
theorem eval_currentSlack_congr (family : Family) (lower : 0 < bound) :
    s₁.eval (β := List α) (Program.value (.slack .current family) lower)
      = s₂.eval (β := List α) (Program.value (.slack .current family) lower) :=
  (eval_value s₁ _ lower).trans
    ((value_currentSlack_congr h hcurrent hmu family).trans (eval_value s₂ _ lower).symm)

/-- The barrier terms of a gradient are multiples of `mu`, and whether
there are damping terms depends on `mu` being positive. -/
theorem eval_addBarrierGradient_alike (block : Block) (gradient : List α) (lower : 0 < bound) :
    Checked.Rel (List.Forall₂ Scalar.Alike)
      (s₁.eval (Quantity.addBarrierGradient s₁ block gradient lower))
      (s₂.eval (Quantity.addBarrierGradient s₂ block gradient lower)) := by
  have hweight : Scalar.Alike (s₂.options.dampingWeight * s₁.mu)
      (s₂.options.dampingWeight * s₂.mu) := LawfulZero.mul_alike (.refl _) hmu
  unfold Quantity.addBarrierGradient
  simp only [eval_bind, eval_currentSlack_congr h hcurrent hmu, h.problem, h.options, h.damping,
    eval_lift, eval_ite, eval_pure, hweight.pos_iff]
  -- Both slacks are the same, and what is added to the gradient is alike.
  refine .bind (.refl (R := Eq) (fun _ => rfl) _) ?_
  rintro lowerSlack _ rfl
  refine .bind (.refl (R := Eq) (fun _ => rfl) _) ?_
  rintro upperSlack _ rfl
  refine .bind (Selection.scatterAdd_alike _ (LawfulZero.neg_alike hmu) _
    (Linear.alike_refl gradient)) fun g g' hg => ?_
  refine .bind (Selection.scatterAdd_alike _ hmu _ hg) fun g g' hg => ?_
  split
  · refine .bind (Selection.scatterAdd_alike _ hweight _ hg) fun g g' hg => ?_
    exact Selection.scatterAdd_alike _ (LawfulZero.neg_alike hweight) _ hg
  · exact .ok hg

/-- The barrier gradient reads the current point and shows the sign of
`mu`. -/
theorem value_barrierGradient_alike (block : Block) :
    Checked.Rel (List.Forall₂ Scalar.Alike) (s₁.value (.barrierGradient block))
      (s₂.value (.barrierGradient block)) := by
  have hgradient := value_objectiveGradient_congr h (congrArg Iterate.x hcurrent)
  cases block <;> rw [value_eq, value_eq] <;>
    simp only [Setting.key, pure_bind, Quantity.formula, eval_bind, eval_value, hgradient, h.dims]
  case x =>
    refine .bind (.refl (R := Eq) (fun _ => rfl) _) ?_
    rintro gradient _ rfl
    exact eval_addBarrierGradient_alike h hcurrent hmu .x gradient _
  case s => exact eval_addBarrierGradient_alike h hcurrent hmu .s _ _

/-- The derivative along the search direction reads the current point and
that direction, and shows the sign of `mu`. -/
theorem value_directionalDerivative_alike
    (hdirection : s₁.state.requireDirection = s₂.state.requireDirection) :
    Checked.Rel Scalar.Alike (s₁.value .directionalDerivative)
      (s₂.value .directionalDerivative) := by
  rw [value_eq, value_eq]
  simp only [Setting.key, hdirection, bind_assoc, pure_bind, Quantity.formula, eval_bind, eval_lift,
    eval_value, eval_pure]
  refine .bind (.refl (R := Eq) (fun _ => rfl) _) ?_
  rintro - _ rfl
  refine .bind (.refl (R := Eq) (fun _ => rfl) _) ?_
  rintro direction _ rfl
  -- The gradients are alike, and the direction is the same.
  refine .bind (value_barrierGradient_alike h hcurrent hmu .x) fun _ _ hx => ?_
  refine .bind (value_barrierGradient_alike h hcurrent hmu .s) fun _ _ hs => ?_
  refine .bind (Linear.dot_alike hx (Linear.alike_refl _)) fun _ _ hxPart => ?_
  refine .bind (Linear.dot_alike hs (Linear.alike_refl _)) fun _ _ hsPart => ?_
  exact .ok (LawfulZero.add_alike hxPart hsPart)

/-- A complementarity product reads `mu` through its slack. -/
theorem value_complementarity_congr (family : Family) :
    s₁.value (.complementarity family) = s₂.value (.complementarity family) := by
  rw [value_eq, value_eq]
  simp [hcurrent, value_currentSlack_congr h hcurrent hmu]

/-- The products less `mu` show the sign of `mu` where a product is
zero. -/
theorem value_relaxedComplementarity_alike (family : Family) :
    Checked.Rel (List.Forall₂ Scalar.Alike) (s₁.value (.relaxedComplementarity family))
      (s₂.value (.relaxedComplementarity family)) := by
  rw [value_eq, value_eq]
  simp only [Setting.key, pure_bind, Quantity.formula, eval_bind, eval_value, eval_pure,
    value_complementarity_congr h hcurrent hmu]
  refine .bind (.refl (R := Eq) (fun _ => rfl) _) ?_
  rintro products _ rfl
  exact .ok (Linear.shift_alike (LawfulZero.neg_alike hmu) (Linear.alike_refl products))

/-- The norm of the products less a number does not show the sign of that
number, although the entries do. -/
theorem value_complementarityNorm_congr {target₁ target₂ : α}
    (htarget : Scalar.Alike target₁ target₂) (norm : Norm) :
    s₁.value (.complementarityNorm target₁ norm)
      = s₂.value (.complementarityNorm target₂ norm) := by
  -- A norm does not see the sign of a zero, so it does not see that of the target.
  have hnorm : ∀ products : List (List α),
      norm.ofVectors (products.map (Linear.shift (-target₁)))
        = norm.ofVectors (products.map (Linear.shift (-target₂))) := by
    intro products
    refine Norm.ofVectors_eq ?_ norm
    rw [List.forall₂_map_left_iff, List.forall₂_map_right_iff, List.forall₂_same]
    exact fun v _ => Linear.shift_alike (LawfulZero.neg_alike htarget) (Linear.alike_refl v)
  rw [value_eq, value_eq]
  simp [hnorm, value_complementarity_congr h hcurrent hmu]

/-- The centrality measure reads `mu` through the slacks. -/
theorem value_centralityMeasure_congr :
    s₁.value .centralityMeasure = s₂.value .centralityMeasure := by
  rw [value_eq, value_eq]
  simp [value_complementarity_congr h hcurrent hmu]

/-- The largest scaled residual relative to alike numbers. -/
theorem eval_scaledError_congr {target₁ target₂ : α} (htarget : Scalar.Alike target₁ target₂)
    (lower : 3 < bound) :
    s₁.eval (Quantity.scaledError s₁ target₁ lower)
      = s₂.eval (Quantity.scaledError s₂ target₂ lower) := by
  have hlower : 2 < bound := Nat.lt_of_succ_lt lower
  -- Each of the three measures is the same in both settings.
  have hdual := eval_value_congr (value_dualInfeasibility_congr h hcurrent .max) lower lower
  have hprimal := eval_value_congr (value_currentPrimalInfeasibility_congr h hcurrent .max)
    hlower hlower
  have hcomplementarity := eval_value_congr
    (value_complementarityNorm_congr h hcurrent hmu htarget .max) hlower hlower
  unfold Quantity.scaledError
  simp only [eval_bind, eval_pure, hcurrent, h.options, hdual, hprimal, hcomplementarity]

/-- The mean residual relative to alike numbers. -/
theorem eval_averagedError_congr {target₁ target₂ : α} (htarget : Scalar.Alike target₁ target₂)
    (lower : 3 < bound) :
    s₁.eval (Quantity.averagedError s₁ target₁ lower)
      = s₂.eval (Quantity.averagedError s₂ target₂ lower) := by
  have hlower : 2 < bound := Nat.lt_of_succ_lt lower
  have hdual := eval_value_congr (value_dualInfeasibility_congr h hcurrent .one) lower lower
  have hprimal := eval_value_congr (value_currentPrimalInfeasibility_congr h hcurrent .one)
    hlower hlower
  have hcomplementarity := eval_value_congr
    (value_complementarityNorm_congr h hcurrent hmu htarget .one) hlower hlower
  unfold Quantity.averagedError
  simp only [eval_bind, eval_pure, h.dims, hdual, hprimal, hcomplementarity]

/-- The error of the problem reads the current point, and `mu` through the
slacks. -/
theorem value_problemError_congr : s₁.value .problemError = s₂.value .problemError := by
  rw [value_eq, value_eq]
  simp [eval_scaledError_congr h hcurrent hmu (.refl 0)]

/-- The error of the barrier problem reads the current point and `mu`. -/
theorem value_barrierError_congr : s₁.value .barrierError = s₂.value .barrierError := by
  rw [value_eq, value_eq]
  simp [eval_scaledError_congr h hcurrent hmu hmu]

/-- The mean error of the problem reads the current point, and `mu` through
the slacks. -/
theorem value_meanError_congr : s₁.value .meanError = s₂.value .meanError := by
  rw [value_eq, value_eq]
  simp [eval_averagedError_congr h hcurrent hmu (.refl 0)]

/-- The mean error of the barrier problem reads the current point and
`mu`. -/
theorem value_meanBarrierError_congr : s₁.value .meanBarrierError = s₂.value .meanBarrierError := by
  rw [value_eq, value_eq]
  simp [eval_averagedError_congr h hcurrent hmu hmu]

/-- The step limit of a block reads its slacks and its step. -/
theorem eval_blockStepLimit_congr (block : Block) (tau : α) (step : TaggedVector α)
    (lower : 0 < bound) :
    s₁.eval (Quantity.blockStepLimit s₁ block tau step lower)
      = s₂.eval (Quantity.blockStepLimit s₂ block tau step lower) := by
  unfold Quantity.blockStepLimit
  simp [h.problem, eval_currentSlack_congr h hcurrent hmu]

/-- The primal step limit reads the slacks of the current point and its
arguments. -/
theorem value_primalStepLimit_congr (tau : α) (xStep sStep : TaggedVector α) :
    s₁.value (.primalStepLimit tau xStep sStep) = s₂.value (.primalStepLimit tau xStep sStep) := by
  rw [value_eq, value_eq]
  simp [h.dims, eval_blockStepLimit_congr h hcurrent hmu]

/-- The step limit of the slacks reads them and its arguments. -/
theorem value_slackStepLimit_congr (tau : α) (steps : PerFamily (TaggedVector α)) :
    s₁.value (.slackStepLimit tau steps) = s₂.value (.slackStepLimit tau steps) := by
  rw [value_eq, value_eq]
  simp [ensureStepSizes, h.dims, Family.all, value_currentSlack_congr h hcurrent hmu]

/-- The primal-dual scaling reads the slacks and multipliers of the current
point. -/
theorem value_primalDualScaling_congr (block : Block) :
    s₁.value (.primalDualScaling block) = s₂.value (.primalDualScaling block) := by
  rw [value_eq, value_eq]
  simp [hcurrent, h.problem, blockSize_congr h, value_currentSlack_congr h hcurrent hmu]

end

end Setting

end InteriorPoint
