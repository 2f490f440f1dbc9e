import Mathlib.Tactic.Linarith
import InteriorPoint.Proofs.Quantity.Refusals
import InteriorPoint.Proofs.Quantity.Slacks

/-!
# `InteriorPoint.Proofs.Quantity.BarrierTerm`: the barrier term and its gradient

In exact arithmetic, and where no slack is corrected, the barrier
objective is the objective plus one term for each family of bounds
(`Setting.familyTerm`): `-mu * Σ log d + weight * mu * Σ indicator · d`,
for the distances `d` to the bounds. The derivative of that term along a
change of the distances is `Setting.familySlope`. It lies below the term,
because the logarithm lies below its tangents (`familySlope_le`).

The gradient that is computed for a block of variables belongs to these
slopes, whether slacks are corrected or not: paired with a change of the
variables it gives, besides what it was added to, the slopes of both
families of the block at the slacks that are used
(`Sound.gives_addBarrierGradient`). Where these are the distances,
`Limits.distances_sub` joins them with the variables, and the gradient is
a subgradient (`Sound.exists_subgradient`).
-/

set_option autoImplicit false

namespace InteriorPoint

/-! ### Slacks that need no correction -/

section
variable {α : Type} [Scalar α]

namespace Setting

/-- No slack is corrected at a point. -/
def Uncorrected (setting : Setting α) (point : Point) : Prop :=
  ∀ iterate, setting.state.iterateAt point = .ok iterate →
    ∀ family, setting.collapsed family (iterate.primal family.block).entries = 0

/-- The distances of a point to the bounds of a family. -/
def slackAt (setting : Setting α) (iterate : Iterate α) (family : Family) : List α :=
  setting.distances family (iterate.primal family.block).entries

variable {setting : Setting α} {point : Point} {iterate : Iterate α}

/-- No distance lies below the least slack. -/
theorem Uncorrected.least_le (h : setting.Uncorrected point)
    (hat : setting.state.iterateAt point = .ok iterate) (family : Family) :
    ∀ distance ∈ setting.slackAt iterate family, Slack.least setting.mu ≤ distance := by
  intro distance hmem
  have hnone := List.countP_eq_zero.1 (h iterate hat family) distance hmem
  simpa using hnone

/-- A slack that needs no correction is the distance itself. -/
theorem Sound.value_slack (hsound : setting.Sound) (h : setting.Uncorrected point)
    (hat : setting.state.iterateAt point = .ok iterate) (family : Family) :
    setting.value (.slack point family) = .ok (setting.slackAt iterate family) := by
  have hleast := h.least_le hat family
  have hsafeguard := Slack.safeguard_of_least_le setting.options.boundMove hleast
    (setting.problem.limits family).values (iterate.multipliers.get family).entries
  unfold slackAt at hsafeguard
  rw [value_eq, hsound.formula_slack hat]
  simp [key, hat, hsafeguard, slackAt]

/-- The objective has a value wherever there is a point. -/
theorem value_objective (hat : setting.state.iterateAt point = .ok iterate) :
    setting.value (.objective point)
      = .ok (setting.problem.callbacks.objective iterate.x.entries) := by
  rw [value_eq]
  simp [key, Quantity.formula, hat]

/-- The gradient of the objective exists if it has the right size. -/
theorem value_objectiveGradient_eq_ok {gradient : List α} :
    setting.value .objectiveGradient = .ok gradient
      ↔ setting.dims.x
          = (setting.problem.callbacks.gradient setting.state.current.x.entries).length
        ∧ setting.problem.callbacks.gradient setting.state.current.x.entries = gradient := by
  rw [value_eq]
  simp only [Quantity.formula, eval_bind, eval_tell, eval_ensure, eval_pure, key, pure_bind,
    Checked.check_bind_eq_ok, ensureSize_eq_ok, Checked.pure_eq_ok]

/-- If its gradient has the right size, it has a value too. -/
theorem value_objectiveGradient
    (hlength : (setting.problem.callbacks.gradient setting.state.current.x.entries).length
      = setting.dims.x) :
    setting.value .objectiveGradient
      = .ok (setting.problem.callbacks.gradient setting.state.current.x.entries) :=
  value_objectiveGradient_eq_ok.2 ⟨hlength.symm, rfl⟩

/-- The derivative along the direction pairs both parts of the gradient
with it. -/
theorem Sound.value_directionalDerivative (hsound : setting.Sound) {direction : Iterate α}
    (hdirection : setting.state.direction = some direction) {xGradient sGradient : List α}
    (hx : setting.value (.barrierGradient .x) = .ok xGradient)
    (hs : setting.value (.barrierGradient .s) = .ok sGradient)
    (hxLength : xGradient.length = setting.dims.x) (hsLength : sGradient.length = setting.dims.s) :
    setting.value .directionalDerivative
      = .ok (Linear.laneDot xGradient direction.x.entries
        + Linear.laneDot sGradient direction.s.entries) := by
  have hfits := hsound.valid.direction direction hdirection
  -- Both gradients have the sizes of the direction.
  have hxDot : Linear.dot xGradient direction.x.entries = _ :=
    Linear.dot_eq_ok (hxLength.trans (hfits .x))
  have hsDot : Linear.dot sGradient direction.s.entries = _ :=
    Linear.dot_eq_ok (hsLength.trans (hfits .s))
  rw [value_eq]
  simp [key, Quantity.formula, State.requireDirection_eq_ok.2 hdirection, hx, hs, hxDot, hsDot]

end Setting

end

variable {K : Type} [Field K] [LinearOrder K] [ExactFunctions K]

/-- Distances that need no correction are positive. -/
theorem Setting.Uncorrected.slackAt_pos [IsStrictOrderedRing K] {setting : Setting K}
    {point : Point} {iterate : Iterate K} (h : setting.Uncorrected point)
    (hat : setting.state.iterateAt point = .ok iterate) (family : Family) :
    ∀ distance ∈ setting.slackAt iterate family, 0 < distance := by
  intro distance hmem
  exact Scalar.lt_of_lt_of_le (Slack.least_pos _) (h.least_le hat family distance hmem)

/-! ### The term of one family -/

/-- The barrier and damping term of a family for given slacks. -/
def Setting.familyTerm (setting : Setting K) (family : Family) (slack : List K) : K :=
  -setting.mu * (slack.map Scalar.log).sum
    + setting.options.dampingWeight * setting.mu
      * Linear.laneDot (setting.damping.get family) slack

/-- The derivative of that term along a change of the slacks. -/
def Setting.familySlope (setting : Setting K) (family : Family) (slack change : List K) : K :=
  -setting.mu * Linear.laneDot (slack.map (1 / ·)) change
    + setting.options.dampingWeight * setting.mu
      * Linear.laneDot (setting.damping.get family) change

/-- A slope is linear in the change. -/
theorem Setting.familySlope_map_mul (setting : Setting K) (family : Family) (slack change : List K)
    (a : K) :
    setting.familySlope family slack (change.map (· * a))
      = a * setting.familySlope family slack change := by
  unfold familySlope
  rw [Linear.laneDot_map_mul, Linear.laneDot_map_mul]
  ring

section
variable [IsStrictOrderedRing K]
  (hlog : ∀ u v : K, 0 < u → 0 < v → Scalar.log v - Scalar.log u ≤ (v - u) / u)
include hlog

/-- A sum of logarithms lies below its tangents. -/
theorem sum_log_le {slack slack' : List K} (hlength : slack'.length = slack.length)
    (hpos : ∀ d ∈ slack, 0 < d) (hpos' : ∀ d ∈ slack', 0 < d) :
    (slack'.map Scalar.log).sum - (slack.map Scalar.log).sum
      ≤ Linear.laneDot (slack.map (1 / ·)) (List.zipWith (· - ·) slack' slack) := by
  -- Entry by entry: the head is one tangent, and the tail is by induction.
  induction slack generalizing slack' with
  | nil =>
      rw [List.length_eq_zero_iff.1 hlength]
      simp
  | cons d slack ih =>
      cases slack' with
      | nil => cases hlength
      | cons d' slack' =>
          obtain ⟨hd, hrest⟩ := List.forall_mem_cons.1 hpos
          obtain ⟨hd', hrest'⟩ := List.forall_mem_cons.1 hpos'
          have htail := ih (Nat.succ.inj hlength) hrest hrest'
          have htangent := hlog d d' hd hd'
          have hquotient : (d' - d) / d = 1 / d * (d' - d) := by ring
          simp only [List.map_cons, List.sum_cons, List.zipWith_cons_cons, Linear.laneDot_cons]
          rw [hquotient] at htangent
          linarith

/-- The slope of a family lies below its term. The damping term is linear,
so all that is lost is lost in the logarithms. -/
theorem Setting.familySlope_le {setting : Setting K} (hmu : 0 ≤ setting.mu) (family : Family)
    {slack slack' : List K} (hlength : slack'.length = slack.length)
    (hpos : ∀ d ∈ slack, 0 < d) (hpos' : ∀ d ∈ slack', 0 < d) :
    setting.familySlope family slack (List.zipWith (· - ·) slack' slack)
      ≤ setting.familyTerm family slack' - setting.familyTerm family slack := by
  have hsum := mul_le_mul_of_nonneg_left (sum_log_le hlog hlength hpos hpos') hmu
  unfold familySlope familyTerm
  rw [Linear.laneDot_sub hlength (setting.damping.get family)]
  linarith

end

/-! ### Values -/

namespace Setting

/-- How the variables of a block change from the current point to
another. -/
def movement (setting : Setting K) (iterate : Iterate K) (block : Block) : List K :=
  List.zipWith (· - ·) (iterate.primal block).entries
    (setting.state.current.primal block).entries

/-- The barrier and damping terms of a point. -/
def barrierAt (setting : Setting K) (iterate : Iterate K) : K :=
  (Family.all.map fun family =>
    setting.familyTerm family (setting.slackAt iterate family)).sum

/-- The derivative of the term of a family at the current point, along a
change of the variables. -/
def variableSlope (setting : Setting K) (family : Family) (change : List K) : K :=
  family.side.sign * setting.familySlope family (setting.slackAt setting.state.current family)
    ((setting.problem.limits family).selection.indices.map (change.getD · 0))

/-- The derivative of the terms of both families of a block. -/
def blockSlope (setting : Setting K) (block : Block) (change : List K) : K :=
  setting.variableSlope ⟨block, .lower⟩ change + setting.variableSlope ⟨block, .upper⟩ change

/-- The same derivative for slacks that are given, corrected ones for
instance. -/
def slopeFor (setting : Setting K) (block : Block) (slack : Side → List K) (change : List K) : K :=
  setting.familySlope ⟨block, .lower⟩ (slack .lower)
      ((setting.problem.limits ⟨block, .lower⟩).rates .lower change)
    + setting.familySlope ⟨block, .upper⟩ (slack .upper)
      ((setting.problem.limits ⟨block, .upper⟩).rates .upper change)

/-- The two families of a block count with opposite signs. -/
theorem slopeFor_eq (setting : Setting K) (block : Block) (slack : Side → List K)
    (change : List K) :
    setting.slopeFor block slack change
      = setting.familySlope ⟨block, .lower⟩ (slack .lower)
          ((setting.problem.limits ⟨block, .lower⟩).selection.indices.map (change.getD · 0))
        - setting.familySlope ⟨block, .upper⟩ (slack .upper)
          ((setting.problem.limits ⟨block, .upper⟩).selection.indices.map (change.getD · 0)) := by
  simp only [slopeFor, Limits.rates, familySlope_map_mul]
  simp only [Side.sign]
  ring

/-- Without corrections the slacks are the distances. -/
theorem blockSlope_eq_slopeFor (setting : Setting K) (block : Block) (change : List K) :
    setting.blockSlope block change
      = setting.slopeFor block (fun side => setting.slackAt setting.state.current ⟨block, side⟩)
        change := by
  simp only [blockSlope, variableSlope, slopeFor, Limits.rates, familySlope_map_mul]

variable {setting : Setting K}

/-- The barrier term is the sum of the terms of all families. -/
theorem Sound.barrierTerm_eq_sum (hsound : setting.Sound)
    (hweight : 0 ≤ setting.options.dampingWeight) {slacks : PerFamily (List K)}
    (hslacks : ∀ family, (slacks.get family).length = setting.dims.bounds.get family) :
    barrierTerm setting slacks
      = .ok (Family.all.map fun family =>
        setting.familyTerm family (slacks.get family)).sum := by
  have hlist : slacks.toList = Family.all.map slacks.get := rfl
  rw [hsound.barrierTerm_eq_ok hslacks, hlist]
  refine congrArg Except.ok ?_
  simp only [Family.all, List.map_cons, List.map_nil, Scalar.sum_eq, List.sum_cons, List.sum_nil,
    familyTerm]
  split
  · ring
  · -- Without a weight the damping terms vanish.
    rename_i hnot
    rw [le_antisymm (not_lt.1 hnot) hweight]
    ring

/-- The barrier objective is the objective plus the terms of all
families. -/
theorem Sound.value_barrierObjective (hsound : setting.Sound)
    (hweight : 0 ≤ setting.options.dampingWeight) {point : Point} {iterate : Iterate K}
    (h : setting.Uncorrected point) (hat : setting.state.iterateAt point = .ok iterate) :
    setting.value (.barrierObjective point)
      = .ok (setting.problem.callbacks.objective iterate.x.entries
        + setting.barrierAt iterate) := by
  -- Where nothing is corrected, the slacks are the distances.
  have hslacks : (PerFamily.ofFnM fun family => setting.value (.slack point family))
      = .ok (PerFamily.ofFn (setting.slackAt iterate)) := by
    simp only [hsound.value_slack h hat]
    rfl
  have hlength : ∀ family, ((PerFamily.ofFn (setting.slackAt iterate)).get family).length
      = setting.dims.bounds.get family := by
    intro family
    rw [PerFamily.get_ofFn]
    exact hsound.length_distances family _
  have hterm : barrierTerm setting (PerFamily.ofFn (setting.slackAt iterate))
      = .ok (setting.barrierAt iterate) := by
    rw [hsound.barrierTerm_eq_sum hweight hlength]
    simp only [PerFamily.get_ofFn, barrierAt]
  rw [value_eq]
  simp [key, Quantity.formula, hat, value_objective hat, hslacks, hterm]

/-- Adding at the bounded variables of a side, paired with a vector. -/
theorem Sound.gives_scatterAdd_dot (hsound : setting.Sound) (block : Block) (side : Side)
    (alpha : K) {v target : List K} (hv : v.length = setting.dims.bounds.get ⟨block, side⟩)
    (htarget : target.length = setting.blockSize block) :
    Checked.Gives ((setting.problem.limits ⟨block, side⟩).selection.scatterAdd alpha v target)
      fun result => result.length = setting.blockSize block
        ∧ ∀ w, w.length = setting.blockSize block → Linear.laneDot result w
          = Linear.laneDot target w + alpha * Linear.laneDot v
            ((setting.problem.limits ⟨block, side⟩).selection.indices.map (w.getD · 0)) := by
  rw [← hsound.selection_dim block side] at htarget ⊢
  exact Selection.gives_scatterAdd_dot _ alpha (hv.trans (hsound.selection_size _).symm) htarget

/-- What is added to a gradient, paired with a change of the variables,
are the slopes of both families of the block. -/
theorem Sound.gives_addBarrierGradient [IsStrictOrderedRing K] (hsound : setting.Sound)
    (hmu : 0 ≤ setting.mu) (hweight : 0 ≤ setting.options.dampingWeight) {block : Block}
    {slack : Side → List K}
    (hslack : ∀ side, setting.value (.slack .current ⟨block, side⟩) = .ok (slack side))
    (hlength : ∀ side, (slack side).length = setting.dims.bounds.get ⟨block, side⟩)
    {gradient : List K} (hgradient : gradient.length = setting.blockSize block) {bound : Nat}
    (lower : 0 < bound) :
    Checked.Gives (setting.eval (Quantity.addBarrierGradient setting block gradient lower))
      fun result => result.length = setting.blockSize block
        ∧ ∀ w, w.length = setting.blockSize block → Linear.laneDot result w
          = Linear.laneDot gradient w + setting.slopeFor block slack w := by
  have hask : ∀ side, setting.eval (Program.value (.slack .current ⟨block, side⟩) lower)
      = .ok (slack side) := fun side => (eval_value setting _ lower).trans (hslack side)
  have hscatter := hsound.gives_scatterAdd_dot block
  have hinverse : ∀ side, ((slack side).map (1 / ·)).length
      = setting.dims.bounds.get ⟨block, side⟩ :=
    fun side => (List.length_map _).trans (hlength side)
  unfold Quantity.addBarrierGradient
  simp only [eval_bind, eval_ite, eval_lift, eval_pure, hask, Checked.ok_bind]
  -- Both sides of the block, and then both of the damping if it has a weight.
  refine (hscatter .lower _ (hinverse .lower) hgradient).bind fun g₁ h₁ => ?_
  obtain ⟨hg₁, hdot₁⟩ := h₁
  refine (hscatter .upper _ (hinverse .upper) hg₁).bind fun g₂ h₂ => ?_
  obtain ⟨hg₂, hdot₂⟩ := h₂
  split
  · refine (hscatter .lower _ (hsound.length_damping _) hg₂).bind fun g₃ h₃ => ?_
    obtain ⟨hg₃, hdot₃⟩ := h₃
    refine (hscatter .upper _ (hsound.length_damping _) hg₃).mono fun g₄ h₄ => ?_
    obtain ⟨hg₄, hdot₄⟩ := h₄
    refine ⟨hg₄, fun w hw => ?_⟩
    rw [hdot₄ w hw, hdot₃ w hw, hdot₂ w hw, hdot₁ w hw]
    simp only [slopeFor_eq, familySlope]
    ring
  · -- Then the damping terms have no weight in the slopes either.
    rename_i hnot
    have hzero := le_antisymm (not_lt.1 hnot) (mul_nonneg hweight hmu)
    refine Checked.gives_pure ⟨hg₂, fun w hw => ?_⟩
    rw [hdot₂ w hw, hdot₁ w hw]
    simp only [slopeFor_eq, familySlope, hzero]
    ring

/-- The gradient of the objective with respect to a block of variables.
The objective does not read the slack variables. -/
def objectivePart (setting : Setting K) : Block → List K
  | .x => setting.problem.callbacks.gradient setting.state.current.x.entries
  | .s => Linear.zeros setting.dims.s

/-- The gradient of the barrier objective exists. Paired with a change of
the variables it gives the change of the objective and the slopes. -/
theorem Sound.gives_barrierGradient [IsStrictOrderedRing K] (hsound : setting.Sound)
    (hmu : 0 ≤ setting.mu) (hweight : 0 ≤ setting.options.dampingWeight) {block : Block}
    (hgradient : (setting.objectivePart block).length = setting.blockSize block)
    {slack : Side → List K}
    (hslack : ∀ side, setting.value (.slack .current ⟨block, side⟩) = .ok (slack side))
    (hlength : ∀ side, (slack side).length = setting.dims.bounds.get ⟨block, side⟩) :
    Checked.Gives (setting.value (.barrierGradient block)) fun (result : List K) =>
      result.length = setting.blockSize block
        ∧ ∀ w, w.length = setting.blockSize block → Linear.laneDot result w
          = Linear.laneDot (setting.objectivePart block) w + setting.slopeFor block slack w := by
  rw [value_eq]
  -- The `x` part starts from the gradient of the objective, the `s` part from zeros.
  cases block with
  | x =>
      simp only [key, Quantity.formula, eval_bind, eval_value, value_objectiveGradient hgradient,
        Checked.ok_bind, pure_bind]
      exact hsound.gives_addBarrierGradient hmu hweight hslack hlength hgradient _
  | s =>
      simp only [key, Quantity.formula, pure_bind]
      exact hsound.gives_addBarrierGradient hmu hweight hslack hlength hgradient _

/-! ### The gradient lies below the term -/

variable {iterate : Iterate K}

/-- A block moves by as many entries as it has. -/
theorem Sound.length_movement (hsound : setting.Sound) {point : Point}
    (hat : setting.state.iterateAt point = .ok iterate) (block : Block) :
    (setting.movement iterate block).length = setting.blockSize block := by
  unfold movement
  rw [List.length_zipWith, hsound.length_primal hat block,
    hsound.length_primal setting.iterateAt_current block, Nat.min_self]

/-- Moving the variables changes the distances of a family along with
them. -/
theorem Sound.variableSlope_sub (hsound : setting.Sound) {point : Point}
    (hat : setting.state.iterateAt point = .ok iterate) (family : Family) :
    setting.variableSlope family (setting.movement iterate family.block)
      = setting.familySlope family (setting.slackAt setting.state.current family)
        (List.zipWith (· - ·) (setting.slackAt iterate family)
          (setting.slackAt setting.state.current family)) := by
  have hlength := (hsound.length_primal hat family.block).trans
    (hsound.length_primal setting.iterateAt_current family.block).symm
  have hdistances := (setting.problem.limits family).distances_sub family.side hlength
  unfold variableSlope movement slackAt Setting.distances
  rw [hdistances, Limits.rates, familySlope_map_mul]

section
variable [IsStrictOrderedRing K]
  (hlog : ∀ u v : K, 0 < u → 0 < v → Scalar.log v - Scalar.log u ≤ (v - u) / u)
include hlog

/-- The slope of a family along a movement lies below the growth of its
term. -/
theorem Sound.variableSlope_le (hsound : setting.Sound) (hmu : 0 ≤ setting.mu) {point : Point}
    (h : setting.Uncorrected .current) (h' : setting.Uncorrected point)
    (hat : setting.state.iterateAt point = .ok iterate) (family : Family) :
    setting.variableSlope family (setting.movement iterate family.block)
      ≤ setting.familyTerm family (setting.slackAt iterate family)
        - setting.familyTerm family (setting.slackAt setting.state.current family) := by
  have hlength : (setting.slackAt iterate family).length
      = (setting.slackAt setting.state.current family).length :=
    (hsound.length_distances family _).trans (hsound.length_distances family _).symm
  rw [hsound.variableSlope_sub hat]
  exact familySlope_le hlog hmu family hlength (h.slackAt_pos setting.iterateAt_current family)
    (h'.slackAt_pos hat family)

/-- The slopes of all families together lie below the barrier terms. -/
theorem Sound.blockSlope_add_le (hsound : setting.Sound) (hmu : 0 ≤ setting.mu) {point : Point}
    (h : setting.Uncorrected .current) (h' : setting.Uncorrected point)
    (hat : setting.state.iterateAt point = .ok iterate) :
    setting.blockSlope .x (setting.movement iterate .x)
        + setting.blockSlope .s (setting.movement iterate .s)
      ≤ setting.barrierAt iterate - setting.barrierAt setting.state.current := by
  have hfamily := hsound.variableSlope_le hlog hmu h h' hat
  -- The inequality of each family, to be added up.
  have hxLower := hfamily ⟨.x, .lower⟩
  have hxUpper := hfamily ⟨.x, .upper⟩
  have hsLower := hfamily ⟨.s, .lower⟩
  have hsUpper := hfamily ⟨.s, .upper⟩
  simp only [blockSlope, barrierAt, Family.all, Family.xLower, Family.xUpper, Family.sLower,
    Family.sUpper, List.map_cons, List.map_nil, List.sum_cons, List.sum_nil]
  linarith

/-- The gradient of the barrier objective, less that of the objective, is
a subgradient of the barrier terms: from the current point to any other
point they grow by at least what it says. -/
theorem Sound.exists_subgradient (hsound : setting.Sound) (hmu : 0 ≤ setting.mu)
    (hweight : 0 ≤ setting.options.dampingWeight)
    (hgradient : (setting.objectivePart .x).length = setting.dims.x) {point : Point}
    (h : setting.Uncorrected .current) (h' : setting.Uncorrected point)
    (hat : setting.state.iterateAt point = .ok iterate) :
    ∃ xGradient sGradient : List K,
      setting.value (.barrierGradient .x) = .ok xGradient
        ∧ setting.value (.barrierGradient .s) = .ok sGradient
        ∧ xGradient.length = setting.dims.x ∧ sGradient.length = setting.dims.s
        ∧ Linear.laneDot (List.zipWith (· - ·) xGradient (setting.objectivePart .x))
              (setting.movement iterate .x)
            + Linear.laneDot sGradient (setting.movement iterate .s)
          ≤ setting.barrierAt iterate - setting.barrierAt setting.state.current := by
  have hvalue := hsound.value_slack h setting.iterateAt_current
  have hgives : ∀ block, (setting.objectivePart block).length = setting.blockSize block → _ :=
    fun block hpart => hsound.gives_barrierGradient hmu hweight hpart
      (fun side => hvalue ⟨block, side⟩) fun side => hsound.length_distances ⟨block, side⟩ _
  obtain ⟨xGradient, hx, hxLength, hxDot⟩ := hgives .x hgradient
  obtain ⟨sGradient, hs, hsLength, hsDot⟩ := hgives .s List.length_replicate
  refine ⟨xGradient, sGradient, hx, hs, hxLength, hsLength, ?_⟩
  have hmoved := hsound.length_movement hat
  have hslopes := hsound.blockSlope_add_le hlog hmu h h' hat
  -- What the gradients add to the objective are these two slopes.
  rw [blockSlope_eq_slopeFor, blockSlope_eq_slopeFor] at hslopes
  rw [Linear.laneDot_sub_left (hxLength.trans hgradient.symm), hxDot _ (hmoved .x),
    hsDot _ (hmoved .s), objectivePart, objectivePart, Linear.laneDot_zeros]
  linarith

end

end Setting

end InteriorPoint
